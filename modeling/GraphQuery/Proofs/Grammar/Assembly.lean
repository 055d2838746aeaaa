import GraphQuery.Parser
import GraphQuery.Proofs.Schema.Validation

/-! The grammar of a valid schema: it exists, and its entries are those of the declared types. -/

set_option autoImplicit false

namespace GraphQuery.Grammar

open Schema

theorem mem_insertForm {form other : List Char} {forms : List (List Char)} :
    form ∈ insertForm other forms ↔ form = other ∨ form ∈ forms := by
  induction forms with
  | nil => simp [insertForm]
  | cons first rest ih =>
    unfold insertForm
    split
    · simp
    · simp only [List.mem_cons, ih]
      tauto

theorem mem_longestFirst {form : List Char} {forms : List (List Char)} :
    form ∈ longestFirst forms ↔ form ∈ forms := by
  induction forms with
  | nil => simp [longestFirst]
  | cons first rest ih =>
    rw [longestFirst, List.foldr_cons, mem_insertForm, List.mem_cons]
    exact or_congr_right ih

theorem mem_forms {form singular plural : List Char} :
    form ∈ forms singular plural ↔ form ∈ spellings singular ∨ form ∈ spellings plural := by
  rw [forms, mem_longestFirst, List.mem_eraseDups, List.mem_append]

theorem forms_ne_nil (singular plural : List Char) : forms singular plural ≠ [] :=
  List.ne_nil_of_mem (mem_forms.mpr (.inl (List.mem_cons_self : singular ∈ spellings singular)))

theorem checkEntries_eq_ok {seen : List TypeId} {entries : List TypeEntry} :
    checkEntries seen entries = .ok () ↔
      Fresh seen (entries.map (·.id)) ∧ ∀ entry ∈ entries, entry.forms ≠ [] := by
  induction entries generalizing seen with
  | nil => simp [checkEntries, pure, Except.pure]
  | cons entry rest ih =>
    simp only [checkEntries, guard_eq_ok, ih, List.map_cons, fresh_cons, List.forall_mem_cons]
    tauto

/-- A schema is refused for its own flaw, before any entry is looked at. -/
theorem ofSchema_eq_error_of_validate {schema : Schema} {flaw : Flaw}
    (refused : schema.validate = .error flaw) :
    ofSchema schema = .error (.inconsistentSchema flaw.message) := by
  simp [ofSchema, refused, Except.mapError, bind, Except.bind]

/-- A valid schema has a grammar, and no other schema has one. -/
theorem ofSchema_eq_ok {schema : Schema} {grammar : Grammar} :
    ofSchema schema = .ok grammar ↔ schema.validate = .ok () ∧ grammar = ofTypes schema := by
  simp only [ofSchema, check, check_then_eq_ok, mapError_eq_ok, checkEntries_eq_ok, pure, Except.pure,
    Except.ok.injEq]
  constructor
  · rintro ⟨valid, _, same⟩
    exact ⟨valid, same.symm⟩
  · rintro ⟨valid, rfl⟩
    obtain ⟨nodes, relationships⟩ := ids_nodup_of_validate valid
    refine ⟨valid, ⟨⟨⟨by simp, ?_⟩, ?_⟩, ⟨by simp, ?_⟩, ?_⟩, rfl⟩
    · simpa [ofTypes, Function.comp_def, TypeEntry.ofType] using nodes
    · simp [ofTypes, TypeEntry.ofType, forms_ne_nil]
    · simpa [ofTypes, Function.comp_def, TypeEntry.ofType] using relationships
    · simp [ofTypes, TypeEntry.ofType, forms_ne_nil]

@[simp] theorem entries_ofTypes (schema : Schema) (kind : Kind) :
    (ofTypes schema).entries kind = (schema.types kind).map (.ofType kind) := by
  cases kind <;> simp [entries, ofTypes, types, Function.comp_def]

theorem kind_of_mem_entries {schema : Schema} {kind : Kind} {entry : TypeEntry}
    (member : entry ∈ (ofTypes schema).entries kind) : entry.kind = kind := by
  simp only [entries_ofTypes, List.mem_map] at member
  obtain ⟨type, _, rfl⟩ := member
  rfl

/-- The entry of an id is that of the first type declared under it. -/
theorem entryOf_ofTypes (schema : Schema) (kind : Kind) (id : TypeId) :
    Grammar.entry? (ofTypes schema) kind id =
      ((schema.types kind).filter (·.id == id)).head?.map (.ofType kind) := by
  rw [List.head?_filter, entry?, entries_ofTypes, List.find?_map]
  rfl

theorem mem_entries_of_found {grammar : Grammar} {kind : Kind} {id : TypeId} {entry : TypeEntry}
    (found : grammar.entry? kind id = some entry) :
    entry ∈ grammar.entries kind ∧ entry.id = id := by
  refine ⟨List.mem_of_find?_eq_some found, ?_⟩
  simpa using List.find?_some found

end GraphQuery.Grammar

namespace GraphQuery.Parser

/-- A parser over all types of a schema. It is that of the schema if the schema is valid. -/
def forTypes (schema : Schema) (maxLength : Nat) : Parser where
  grammar := .ofTypes schema
  maxLength := maxLength

theorem ofSchema_eq_ok {schema : Schema} {maxLength : Nat} {parser : Parser} :
    ofSchema schema maxLength = .ok parser ↔
      schema.validate = .ok () ∧ parser = ⟨Grammar.ofTypes schema, maxLength⟩ := by
  simp only [ofSchema, bind_eq_ok, Grammar.ofSchema_eq_ok, pure, Except.pure, Except.ok.injEq]
  constructor
  · rintro ⟨grammar, ⟨valid, rfl⟩, same⟩
    exact ⟨valid, same.symm⟩
  · rintro ⟨valid, rfl⟩
    exact ⟨_, ⟨valid, rfl⟩, rfl⟩

theorem ofSchema_of_valid {schema : Schema} (valid : schema.validate = .ok ()) (maxLength : Nat) :
    ofSchema schema maxLength = .ok (forTypes schema maxLength) :=
  ofSchema_eq_ok.mpr ⟨valid, rfl⟩

theorem ofSchema_of_flaw {schema : Schema} {flaw : Schema.Flaw} (refused : schema.validate = .error flaw)
    (maxLength : Nat) : ofSchema schema maxLength = .error (.inconsistentSchema flaw.message) := by
  rw [ofSchema, Grammar.ofSchema_eq_error_of_validate refused]
  rfl

end GraphQuery.Parser
