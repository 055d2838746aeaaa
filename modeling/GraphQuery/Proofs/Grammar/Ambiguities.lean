import GraphQuery.Proofs.FirstOccurrences
import GraphQuery.Proofs.Grammar.Assembly
import GraphQuery.Proofs.Query.Soundness
import Mathlib.Data.List.Induction

/-! Forms that several types share.

The forms of all types of a kind are noted one after the other. At any time there is a report for each form that
was seen, in the order in which the forms were first seen, and it lists the types with which the form was seen.
In the end these are all types that have the form, and the reports of a single type are left out. -/

set_option autoImplicit false

namespace GraphQuery

open Text Query

namespace Grammar
variable {kind : Kind} {id : TypeId} {form : List Char} {reports : List Ambiguity} {entries : List TypeEntry}
  {seen : List (TypeId × List Char)}

theorem noteForm_of_notMem (fresh : form ∉ reports.map (·.form)) :
    noteForm kind id form reports = reports ++ [⟨kind, form, [id]⟩] := by
  induction reports with
  | nil => rfl
  | cons report rest ih =>
    rw [List.map_cons, List.mem_cons, not_or] at fresh
    rw [noteForm, if_neg (Ne.symm fresh.1), ih fresh.2, List.cons_append]

theorem noteForm_of_mem (distinct : (reports.map (·.form)).Nodup) (listed : form ∈ reports.map (·.form)) :
    noteForm kind id form reports =
      reports.map fun report => if report.form = form then report.note id else report := by
  induction reports with
  | nil => cases listed
  | cons report rest ih =>
    obtain ⟨once, distinct⟩ := List.nodup_cons.mp distinct
    rw [noteForm, List.map_cons]
    by_cases here : report.form = form
    · -- The forms are distinct, so no later report changes either.
      have others : rest.map (fun report => if report.form = form then report.note id else report) =
          rest.map fun report => report := by
        apply List.map_congr_left
        intro other member
        have differs : other.form ≠ form := fun same =>
          once (List.mem_map.mpr ⟨other, member, same.trans here.symm⟩)
        rw [if_neg differs]
      rw [if_pos here, if_pos here, others, List.map_id']
    · have later := (List.mem_cons.mp listed).resolve_left (Ne.symm here)
      rw [if_neg here, if_neg here, ih distinct later]

def idsWith (form : List Char) (seen : List (TypeId × List Char)) : List TypeId :=
  (seen.filter (·.2 = form)).map (·.1)

/-- What is reported once these forms of types have been seen. -/
def noted (kind : Kind) (seen : List (TypeId × List Char)) : List Ambiguity :=
  (seen.map (·.2)).eraseDups.map fun form => ⟨kind, form, (idsWith form seen).eraseDups⟩

theorem idsWith_append (form : List Char) (seen later : List (TypeId × List Char)) :
    idsWith form (seen ++ later) = idsWith form seen ++ idsWith form later := by
  rw [idsWith, List.filter_append, List.map_append]
  rfl

theorem mem_idsWith : id ∈ idsWith form seen ↔ (id, form) ∈ seen := by
  simp [idsWith]

theorem idsWith_eq_nil (fresh : form ∉ seen.map (·.2)) : idsWith form seen = [] := by
  rw [List.eq_nil_iff_forall_not_mem]
  intro id member
  exact fresh (List.mem_map_of_mem (mem_idsWith.mp member))

theorem map_form_noted : (noted kind seen).map (·.form) = (seen.map (·.2)).eraseDups := by
  rw [noted, List.map_map]
  exact List.map_id _

theorem idsWith_concat_self : idsWith form (seen ++ [(id, form)]) = idsWith form seen ++ [id] := by
  rw [idsWith_append]
  simp [idsWith]

theorem idsWith_concat_of_ne {other : List Char} (differs : other ≠ form) :
    idsWith other (seen ++ [(id, form)]) = idsWith other seen := by
  rw [idsWith_append]
  simp [idsWith, Ne.symm differs]

theorem noteForm_noted : noteForm kind id form (noted kind seen) = noted kind (seen ++ [(id, form)]) := by
  by_cases listed : form ∈ seen.map (·.2)
  · -- The form has a report already. The others stay, and this one lists the type from now on.
    have distinct : ((noted kind seen).map (·.form)).Nodup := by
      rw [map_form_noted]
      exact nodup_eraseDups _
    have reported : form ∈ (noted kind seen).map (·.form) := by
      rw [map_form_noted, List.mem_eraseDups]
      exact listed
    rw [noteForm_of_mem distinct reported, noted, noted, List.map_append, List.map_singleton, eraseDups_concat,
      if_pos listed, List.map_map]
    apply List.map_congr_left
    intro other _
    by_cases same : other = form
    · subst same
      rw [Function.comp_apply, if_pos rfl, idsWith_concat_self, eraseDups_concat, Ambiguity.note]
      simp only [List.mem_eraseDups]
      split <;> rfl
    · rw [Function.comp_apply, if_neg same, idsWith_concat_of_ne same]
  · -- No report is about the form, so a new one comes last.
    have fresh : form ∉ (noted kind seen).map (·.form) := by
      rw [map_form_noted, List.mem_eraseDups]
      exact listed
    have kept : ∀ other ∈ (seen.map (·.2)).eraseDups,
        (⟨kind, other, (idsWith other (seen ++ [(id, form)])).eraseDups⟩ : Ambiguity) =
          ⟨kind, other, (idsWith other seen).eraseDups⟩ := by
      intro other member
      rw [idsWith_concat_of_ne (ne_of_mem_of_not_mem (List.mem_eraseDups.mp member) listed)]
    rw [noteForm_of_notMem fresh, noted, noted, List.map_append, List.map_singleton, eraseDups_concat,
      if_neg listed, List.map_append, List.map_singleton, List.map_congr_left kept, idsWith_concat_self,
      idsWith_eq_nil listed]
    rfl

def formsById (entries : List TypeEntry) : List (TypeId × List Char) :=
  entries.flatMap fun entry => entry.forms.map fun form => (entry.id, form)

theorem foldl_noteForm (kind : Kind) (seen : List (TypeId × List Char)) :
    seen.foldl (fun reports next => noteForm kind next.1 next.2 reports) [] = noted kind seen := by
  -- The last form is taken off, which is noted after all others.
  induction seen using List.reverseRecOn with
  | nil => rfl
  | append_singleton seen last ih =>
    rw [List.foldl_append, ih]
    exact noteForm_noted

theorem foldl_noteEntry (kind : Kind) (entries : List TypeEntry) :
    entries.foldl (noteEntry kind) [] = noted kind (formsById entries) := by
  rw [← foldl_noteForm, formsById, List.foldl_flatMap]
  congr 1
  funext reports entry
  rw [noteEntry, List.foldl_map]

theorem mem_formsById : (id, form) ∈ formsById entries ↔
    ∃ entry ∈ entries, entry.id = id ∧ form ∈ entry.forms := by
  simp only [formsById, List.mem_flatMap, List.mem_map, Prod.mk.injEq]
  constructor
  · rintro ⟨entry, member, _, has, rfl, rfl⟩
    exact ⟨entry, member, rfl, has⟩
  · rintro ⟨entry, member, rfl, has⟩
    exact ⟨entry, member, form, has, rfl, rfl⟩

/-- All forms of an entry are noted under its id, and those of others under none that is the same. -/
theorem eraseDups_idsWith (distinct : (entries.map (·.id)).Nodup) :
    (idsWith form (formsById entries)).eraseDups = (entries.filter (form ∈ ·.forms)).map (·.id) := by
  induction entries with
  | nil => rfl
  | cons entry rest ih =>
    obtain ⟨once, distinct⟩ := List.nodup_cons.mp distinct
    have parts : idsWith form (formsById (entry :: rest)) =
        idsWith form (formsById [entry]) ++ idsWith form (formsById rest) := by
      rw [← idsWith_append, formsById, formsById, formsById, ← List.flatMap_append]
      rfl
    rw [parts]
    -- Whatever the later entries are noted for, none of it is under the id of this one.
    by_cases has : form ∈ entry.forms
    · have listed : idsWith form (formsById [entry]) ≠ [] := by
        apply List.ne_nil_of_mem
        exact mem_idsWith.mpr (mem_formsById.mpr ⟨entry, List.mem_singleton_self entry, rfl, has⟩)
      have same : ∀ id ∈ idsWith form (formsById [entry]), id = entry.id := by
        intro id member
        obtain ⟨other, itself, rfl, _⟩ := mem_formsById.mp (mem_idsWith.mp member)
        rw [List.mem_singleton.mp itself]
      have fresh : entry.id ∉ idsWith form (formsById rest) := by
        intro member
        obtain ⟨other, later, repeated, _⟩ := mem_formsById.mp (mem_idsWith.mp member)
        exact once (List.mem_map.mpr ⟨other, later, repeated⟩)
      rw [eraseDups_append_of_forall_eq listed same fresh, ih distinct,
        List.filter_cons_of_pos (by simpa using has), List.map_cons]
    · have none : idsWith form (formsById [entry]) = [] := by
        rw [List.eq_nil_iff_forall_not_mem]
        intro id member
        obtain ⟨other, itself, _, had⟩ := mem_formsById.mp (mem_idsWith.mp member)
        exact has (List.mem_singleton.mp itself ▸ had)
      rw [none, List.nil_append, ih distinct, List.filter_cons_of_neg (by simpa using has)]

theorem ambiguitiesOf_eq {grammar : Grammar} (distinct : ((grammar.entries kind).map (·.id)).Nodup) :
    grammar.ambiguitiesOf kind =
      (((grammar.entries kind).flatMap (·.forms)).eraseDups.map fun form =>
        ⟨kind, form, ((grammar.entries kind).filter (form ∈ ·.forms)).map (·.id)⟩).filter
          (1 < ·.typeIds.length) := by
  have forms : (formsById (grammar.entries kind)).map (·.2) = (grammar.entries kind).flatMap (·.forms) := by
    simp only [formsById, List.map_flatMap, List.map_map]
    congr 1
    funext entry
    exact List.map_id _
  rw [ambiguitiesOf, foldl_noteEntry, noted, forms]
  simp only [eraseDups_idsWith distinct]

end Grammar

/-! The reports of a valid schema. -/

namespace Schema

open Grammar

variable {schema : Schema} {kind : Kind} {form : List Char} {reports : List Ambiguity}

def bearers (schema : Schema) (kind : Kind) (form : List Char) : List NodeType :=
  (schema.types kind).filter fun type => form ∈ (TypeEntry.ofType kind type).forms

def typeForms (schema : Schema) (kind : Kind) : List (List Char) :=
  (schema.types kind).flatMap fun type => (TypeEntry.ofType kind type).forms

theorem mem_bearers {type : NodeType} : type ∈ schema.bearers kind form ↔
    type ∈ schema.types kind ∧ form ∈ (TypeEntry.ofType kind type).forms := by
  simp [bearers]

theorem mem_typeForms_of_bearers {type : NodeType} (bears : type ∈ schema.bearers kind form) :
    form ∈ schema.typeForms kind := by
  obtain ⟨declared, has⟩ := mem_bearers.mp bears
  exact List.mem_flatMap.mpr ⟨type, declared, has⟩

/-- There is one report for each form that at least two types have, and it has all of them. -/
structure SharedForms (schema : Schema) (kind : Kind) (reports : List Ambiguity) : Prop where
  mem_iff : ∀ report, report ∈ reports ↔ report.kind = kind ∧
    2 ≤ (schema.bearers kind report.form).length ∧
      report.typeIds = (schema.bearers kind report.form).map (·.id)
  ordered : reports.Pairwise fun earlier later =>
    (schema.typeForms kind).idxOf earlier.form < (schema.typeForms kind).idxOf later.form

theorem sharedForms (valid : schema.validate = .ok ()) (kind : Kind) :
    SharedForms schema kind ((ofTypes schema).ambiguitiesOf kind) := by
  have distinct : (((ofTypes schema).entries kind).map (·.id)).Nodup := by
    rw [entries_ofTypes, List.map_map]
    exact nodup_ids_of_validate valid kind
  have forms : ((ofTypes schema).entries kind).flatMap (·.forms) = schema.typeForms kind := by
    rw [entries_ofTypes, List.flatMap_map]
    rfl
  have ids : ∀ form, (((ofTypes schema).entries kind).filter (form ∈ ·.forms)).map (·.id) =
      (schema.bearers kind form).map (·.id) := by
    intro form
    rw [entries_ofTypes, List.filter_map, List.map_map]
    rfl
  rw [ambiguitiesOf_eq distinct, forms]
  simp only [ids]
  constructor
  · intro report
    simp only [List.mem_filter, List.mem_map, List.mem_eraseDups, decide_eq_true_eq]
    constructor
    · rintro ⟨⟨form, _, rfl⟩, several⟩
      rw [List.length_map] at several
      exact ⟨rfl, several, rfl⟩
    · rintro ⟨rfl, several, listed⟩
      obtain ⟨type, member⟩ := List.exists_mem_of_length_pos (Nat.lt_of_lt_of_le Nat.two_pos several)
      refine ⟨⟨report.form, mem_typeForms_of_bearers member, ?_⟩, ?_⟩
      · rw [← listed]
      · rw [listed, List.length_map]
        exact several
  · apply List.Pairwise.filter
    rw [List.pairwise_map]
    exact pairwise_idxOf_eraseDups _

/-- Two types that have a form in common are both reported for it. -/
theorem SharedForms.exists_report (shared : SharedForms schema kind reports) {first second : NodeType}
    (declared : first ∈ schema.types kind) (declared' : second ∈ schema.types kind) (differ : first ≠ second)
    (has : form ∈ (TypeEntry.ofType kind first).forms) (has' : form ∈ (TypeEntry.ofType kind second).forms) :
    ∃ report ∈ reports, report.kind = kind ∧ report.form = form ∧
      first.id ∈ report.typeIds ∧ second.id ∈ report.typeIds := by
  have bears : first ∈ schema.bearers kind form := mem_bearers.mpr ⟨declared, has⟩
  have bears' : second ∈ schema.bearers kind form := mem_bearers.mpr ⟨declared', has'⟩
  -- A single type would be both of them.
  have several : 2 ≤ (schema.bearers kind form).length := by
    rcases found : schema.bearers kind form with _ | ⟨one, _ | ⟨another, more⟩⟩
    · rw [found] at bears
      cases bears
    · rw [found, List.mem_singleton] at bears bears'
      exact absurd (bears.trans bears'.symm) differ
    · exact Nat.le_add_left 2 more.length
  refine ⟨⟨kind, form, (schema.bearers kind form).map (·.id)⟩, (shared.mem_iff _).mpr ⟨rfl, several, rfl⟩,
    rfl, rfl, ?_, ?_⟩
  · exact List.mem_map_of_mem bears
  · exact List.mem_map_of_mem bears'

theorem has_of_read {type : NodeType} {text rest : List Char}
    (read : (typeName (.ofType kind type)).read? text = some ((), rest)) :
    ∃ form ∈ (TypeEntry.ofType kind type).forms, text = form ++ rest := by
  obtain ⟨form, has, split, _⟩ := name_of_read read
  exact ⟨form, has, split⟩

/-- The reports of a grammar are those of the forms that several types have. Where the names of two types are
read off a text and leave the same of it, both types are reported for what was read. -/
theorem ambiguities_of_schema {grammar : Grammar} (assembled : Grammar.ofSchema schema = .ok grammar) :
    (∃ nodes relationships, grammar.ambiguities = nodes ++ relationships ∧
        SharedForms schema .node nodes ∧ SharedForms schema .relationship relationships) ∧
      (∀ kind, ∀ first ∈ schema.types kind, ∀ second ∈ schema.types kind, first ≠ second → ∀ text rest,
        (typeName (.ofType kind first)).read? text = some ((), rest) →
        (typeName (.ofType kind second)).read? text = some ((), rest) →
        ∃ report ∈ grammar.ambiguities, report.kind = kind ∧ text = report.form ++ rest ∧
          first.id ∈ report.typeIds ∧ second.id ∈ report.typeIds) ∧
      (grammar.ambiguities = [] →
        ∀ kind, ∀ first ∈ schema.types kind, ∀ second ∈ schema.types kind, ∀ form rest rest',
          (typeName (.ofType kind first)).read? (form ++ rest) = some ((), rest) →
          (typeName (.ofType kind second)).read? (form ++ rest') = some ((), rest') → first = second) := by
  obtain ⟨valid, rfl⟩ := ofSchema_eq_ok.mp assembled
  have reported : ∀ kind, ∀ report ∈ (ofTypes schema).ambiguitiesOf kind,
      report ∈ (ofTypes schema).ambiguities := by
    intro kind report member
    cases kind with
    | node => exact List.mem_append_left _ member
    | relationship => exact List.mem_append_right _ member
  refine ⟨⟨_, _, rfl, sharedForms valid .node, sharedForms valid .relationship⟩, ?_, ?_⟩
  · intro kind first declared second declared' differ text rest read read'
    obtain ⟨form, has, split⟩ := has_of_read read
    obtain ⟨form', has', split'⟩ := has_of_read read'
    obtain rfl := List.append_cancel_right (split.symm.trans split')
    obtain ⟨report, member, same, rfl, listed, listed'⟩ :=
      (sharedForms valid kind).exists_report declared declared' differ has has'
    exact ⟨report, reported kind report member, same, split, listed, listed'⟩
  · intro none kind first declared second declared' form rest rest' read read'
    by_contra differ
    obtain ⟨form', has, split⟩ := has_of_read read
    obtain ⟨form'', has', split'⟩ := has_of_read read'
    obtain rfl := List.append_cancel_right split
    obtain rfl := List.append_cancel_right split'
    obtain ⟨report, member, _⟩ := (sharedForms valid kind).exists_report declared declared' differ has has'
    have impossible := reported kind report member
    rw [none] at impossible
    cases impossible

/-- The name of the second node type is the plural of the first. -/
def shoalSchema : Schema where
  nodeTypes := [{ id := 7, name := "Cod", pluralName := some "Fish" },
    { id := 4, name := "FISH", pluralName := some "fish" }]
  relationshipTypes := [{ id := 1, name := "eats", pluralName := some "eats", source := 7, target := 4 },
    { id := 2, name := "Eats", pluralName := some "eats", source := 4, target := 4 }]

theorem ambiguities_of_schema_shoal :
    Grammar.ofSchema shoalSchema = .ok (ofTypes shoalSchema) ∧
      (∃ nodes relationships, (ofTypes shoalSchema).ambiguities = nodes ++ relationships ∧
        SharedForms shoalSchema .node nodes ∧ SharedForms shoalSchema .relationship relationships) ∧
      ∃ report ∈ (ofTypes shoalSchema).ambiguities, report.kind = .node ∧
        "fish in".toList = report.form ++ " in".toList ∧ 7 ∈ report.typeIds ∧ 4 ∈ report.typeIds := by
  have assembled : Grammar.ofSchema shoalSchema = .ok (ofTypes shoalSchema) :=
    ofSchema_eq_ok.mpr ⟨toOption_eq_some.mp (by decide +kernel), rfl⟩
  obtain ⟨lists, shared, _⟩ := ambiguities_of_schema assembled
  refine ⟨assembled, lists, ?_⟩
  exact shared .node { id := 7, name := "Cod", pluralName := some "Fish" } (by decide)
    { id := 4, name := "FISH", pluralName := some "fish" } (by decide) (by decide)
    "fish in".toList " in".toList (by decide +kernel) (by decide +kernel)

/-- Forms come in the order of the first type that has them. -/
example : (ofTypes shoalSchema).ambiguities.map (fun report => (report.kind, String.ofList report.form,
    report.typeIds)) = [(.node, "Fish", [7, 4]), (.node, "fish", [7, 4]), (.node, "FISH", [7, 4]),
      (.relationship, "eats", [1, 2]), (.relationship, "EATS", [1, 2]), (.relationship, "Eats", [1, 2])] := by
  decide +kernel

end Schema
end GraphQuery
