import GraphQuery.Proofs.Registry.Basic
import GraphQuery.Registry.Directory
import Mathlib.Data.List.Nodup

/-! Loading a directory, in whatever order its entries come.

An entry registers a schema if its name is that of a graph with `.json` behind it, and its content is a text
that reads as a valid schema. Names differ, so no two entries are about the same graph, and it makes no
difference which one comes first. -/

set_option autoImplicit false

namespace GraphQuery

/-! What an entry of a directory holds. -/

def FileContent.Holds (content : FileContent) (schema : Schema) : Prop :=
  ∃ bytes text, content = .file bytes ∧ String.fromUTF8? bytes = some text ∧
    Schema.ofText text = .ok schema ∧ schema.validate = .ok ()

/-- Under the name of the graph the directory has a valid schema. A name that begins with its only point
names no graph. -/
def Directory.Offers (directory : Directory) (slug : String) (schema : Schema) : Prop :=
  slug ≠ "" ∧ ∃ content, ((slug ++ ".json").toUTF8, content) ∈ directory ∧ content.Holds schema

theorem FileContent.holds_iff {content : FileContent} {schema : Schema} :
    content.Holds schema ↔ Schema.load (some content) = .ok schema ∧ schema.validate = .ok () := by
  unfold Holds Schema.load
  cases content with
  | directory => simp [text, bind, Except.bind]
  | file bytes =>
    cases decoded : String.fromUTF8? bytes <;> simp [text, decoded, bind, Except.bind]

namespace Registry

theorem fileStem_eq_some {name slug : String} :
    fileStem? "json" name = some slug ↔ slug ≠ "" ∧ name = slug ++ ".json" := by
  have named : name = slug ++ ".json" ↔
      ('.' :: "json".toList).isSuffixOf? name.toList = some slug.toList := by
    rw [List.isSuffixOf?_eq_some_iff_append_eq, ← String.toList_inj, String.toList_append, eq_comm]
    rfl
  have empty : slug = "" ↔ slug.toList = [] := by
    rw [← String.toList_inj]
    rfl
  rw [named, Ne, empty, fileStem?]
  -- Behind the extension is no name, the name of no graph, or the name of one.
  rcases ('.' :: "json".toList).isSuffixOf? name.toList with _ | _ | ⟨first, rest⟩
  · simp
  · simp only [reduceCtorEq, Option.some.injEq, false_iff, not_and]
    exact fun begun same => begun same.symm
  · simp only [Option.some.injEq]
    constructor
    · rintro rfl
      simp
    · rintro ⟨_, same⟩
      rw [same, String.ofList_toList]

theorem fromUTF8_eq_some {name : FileName} {text : String} :
    String.fromUTF8? name = some text ↔ name = text.toUTF8 := by
  unfold String.fromUTF8?
  constructor
  · intro decoded
    split at decoded
    · obtain rfl := Option.some.inj decoded
      rfl
    · cases decoded
  · rintro rfl
    exact dif_pos text.isValidUTF8

theorem slugOf_eq_some {name : FileName} {slug : String} :
    slugOf? name = some slug ↔ slug ≠ "" ∧ name = (slug ++ ".json").toUTF8 := by
  simp only [slugOf?, bind, Option.bind_eq_some_iff, fileStem_eq_some, fromUTF8_eq_some]
  constructor
  · rintro ⟨_, rfl, named, rfl⟩
    exact ⟨named, rfl⟩
  · rintro ⟨named, rfl⟩
    exact ⟨_, rfl, named, rfl⟩

def registration? (entry : FileName × FileContent) : Option (String × Schema) := do
  let slug ← slugOf? entry.1
  let schema ← (Schema.load (some entry.2)).toOption
  if schema.validate = .ok () then some (slug, schema) else none

theorem registration_eq_some {entry : FileName × FileContent} {slug : String} {schema : Schema} :
    registration? entry = some (slug, schema) ↔
      slug ≠ "" ∧ entry.1 = (slug ++ ".json").toUTF8 ∧ entry.2.Holds schema := by
  rw [← and_assoc, ← slugOf_eq_some, FileContent.holds_iff, ← toOption_eq_some]
  simp only [registration?, bind, Option.bind_eq_some_iff, Option.ite_none_right_eq_some,
    Option.some.injEq, Prod.mk.injEq]
  constructor
  · rintro ⟨_, named, _, loaded, valid, rfl, rfl⟩
    exact ⟨named, loaded, valid⟩
  · rintro ⟨named, loaded, valid⟩
    exact ⟨slug, named, schema, loaded, valid, rfl, rfl⟩

def registrations (directory : Directory) : List (String × Schema) :=
  directory.filterMap registration?

theorem mem_registrations {directory : Directory} {slug : String} {schema : Schema} :
    (slug, schema) ∈ registrations directory ↔ directory.Offers slug schema := by
  simp only [registrations, List.mem_filterMap, registration_eq_some, Directory.Offers, Prod.exists]
  constructor
  · rintro ⟨_, content, member, named, rfl, holds⟩
    exact ⟨named, content, member, holds⟩
  · rintro ⟨named, content, member, holds⟩
    exact ⟨_, content, member, named, rfl, holds⟩

/-! Loading. -/

def putAll (registry : Registry) (pairs : List (String × Schema)) : Registry :=
  pairs.foldl (fun registry pair => registry.put pair.1 pair.2) registry

variable {registry : Registry}

@[simp] theorem maxLength_putAll (registry : Registry) (pairs : List (String × Schema)) :
    (registry.putAll pairs).maxLength = registry.maxLength := by
  induction pairs generalizing registry with
  | nil => rfl
  | cons pair rest ih => exact ih (registry.put pair.1 pair.2)

theorem lookup_singleton {α : Type} (slug named : String) (value : α) :
    [(named, value)].lookup slug = if slug = named then some value else none := by
  by_cases same : slug = named
  · rw [if_pos same, same, List.lookup_cons_self]
  · rw [if_neg same, List.lookup_cons, beq_eq_false_iff_ne.mpr same, List.lookup_nil]

/-- The last schema for a slug counts, and a slug without one keeps its parser. -/
theorem parsers_putAll (registry : Registry) (pairs : List (String × Schema)) (slug : String) :
    (registry.putAll pairs).parsers[slug]? =
      ((pairs.reverse.lookup slug).map (Parser.forTypes · registry.maxLength)).or
        registry.parsers[slug]? := by
  induction pairs generalizing registry with
  | nil => rfl
  | cons pair rest ih =>
    obtain ⟨named, schema⟩ := pair
    have later := ih (registry.put named schema)
    rw [parsers_put] at later
    rw [List.reverse_cons, List.lookup_append]
    refine later.trans ?_
    -- A later schema for the slug hides this one.
    cases rest.reverse.lookup slug with
    | some last => rfl
    | none =>
      rw [Option.none_or, lookup_singleton]
      split <;> rfl

theorem loadEntry_eq (registry : Registry) (entry : FileName × FileContent) :
    registry.loadEntry? entry = (registration? entry).map fun pair => registry.put pair.1 pair.2 := by
  simp only [Registry.loadEntry?, registration?, bind]
  cases slugOf? entry.1 with
  | none => rfl
  | some slug =>
    cases (Schema.load (some entry.2)).toOption with
    | none => rfl
    | some schema =>
      cases valid : schema.validate with
      | ok => simp [valid, register_of_valid valid, Except.toOption]
      | error flaw => simp [valid, register_of_flaw valid, Except.toOption]

theorem loadDirectory_eq (registry : Registry) (directory : Option Directory) :
    registry.loadDirectory directory =
      ((registrations (directory.getD [])).length,
        registry.putAll (registrations (directory.getD []))) := by
  -- The step is kept general, since the fold counts and registers in one.
  have from_count : ∀ (step : Nat × Registry → FileName × FileContent → Nat × Registry)
      (_ : ∀ count registry entry, step (count, registry) entry =
        (registration? entry).elim (count, registry)
          fun pair => (count + 1, registry.put pair.1 pair.2))
      (entries : Directory) (count : Nat) (registry : Registry),
      entries.foldl step (count, registry) =
        (count + (registrations entries).length, registry.putAll (registrations entries)) := by
    intro step steps entries
    induction entries with
    | nil => exact fun _ _ => rfl
    | cons entry rest ih =>
      intro count registry
      rw [List.foldl_cons, steps]
      cases held : registration? entry with
      | none =>
        rw [Option.elim_none, ih, registrations, registrations, List.filterMap_cons_none held]
      | some pair =>
        rw [Option.elim_some, ih, registrations, registrations, List.filterMap_cons_some held,
          List.length_cons, Nat.add_right_comm, Nat.add_assoc]
        rfl
  refine (from_count _ (fun count registry entry => ?_) _ 0 registry).trans (by rw [Nat.zero_add])
  simp only [loadEntry_eq]
  cases registration? entry <;> rfl

/-! One entry for one graph. -/

def Registers (entry : FileName × FileContent) : Prop :=
  ∃ slug schema, slug ≠ "" ∧ entry.1 = (slug ++ ".json").toUTF8 ∧ entry.2.Holds schema

theorem registration_isSome {entry : FileName × FileContent} :
    (registration? entry).isSome = true ↔ Registers entry := by
  simp only [Option.isSome_iff_exists, Prod.exists, registration_eq_some, Registers]

instance (entry : FileName × FileContent) : Decidable (Registers entry) :=
  decidable_of_iff _ registration_isSome

theorem length_registrations (directory : Directory) :
    (registrations directory).length = directory.countP (Registers ·) := by
  rw [registrations, List.length_filterMap_eq_countP]
  simp only [← registration_isSome, Bool.decide_eq_true]

/-- What registers nothing leaves no trace. -/
theorem registrations_filter (directory : Directory) :
    registrations (directory.filter (Registers ·)) = registrations directory := by
  rw [registrations, List.filterMap_filter, registrations]
  refine List.filterMap_congr fun entry _ => ?_
  simp only [← registration_isSome, Bool.decide_eq_true]
  cases registration? entry <;> rfl

variable {directory other : Directory}

theorem entry_of_slug (distinct : (directory.map (·.1)).Nodup) {first second : FileName × FileContent}
    (member : first ∈ directory) (member' : second ∈ directory) {slug : String}
    (named : slugOf? first.1 = some slug) (named' : slugOf? second.1 = some slug) :
    first = second := by
  have same : first.1 = second.1 :=
    (slugOf_eq_some.mp named).2.trans (slugOf_eq_some.mp named').2.symm
  exact List.inj_on_of_nodup_map distinct member member' same

theorem distinct_registrations (distinct : (directory.map (·.1)).Nodup) :
    ((registrations directory).map (·.1)).Nodup := by
  rw [List.Nodup, List.pairwise_map] at distinct ⊢
  refine List.pairwise_filterMap.mpr (distinct.imp ?_)
  rintro first second apart ⟨slug, _⟩ registers ⟨slug', _⟩ registers' rfl
  exact apart ((registration_eq_some.mp registers).2.1.trans
    (registration_eq_some.mp registers').2.1.symm)

/-- Where the slugs differ, the last schema for a slug is the only one. -/
theorem lookup_reverse_eq_some {pairs : List (String × Schema)} (distinct : (pairs.map (·.1)).Nodup)
    {slug : String} {schema : Schema} :
    pairs.reverse.lookup slug = some schema ↔ (slug, schema) ∈ pairs := by
  rw [List.lookup_eq_some_iff]
  constructor
  · rintro ⟨before, after, split, -⟩
    rw [← List.mem_reverse, split]
    exact List.mem_append_right _ List.mem_cons_self
  · intro member
    obtain ⟨before, after, split⟩ := List.mem_iff_append.mp (List.mem_reverse.mpr member)
    -- Nothing before the pair can hide it, for that would have its slug.
    refine ⟨before, after, split, fun pair earlier => bne_iff_ne.mpr fun same => ?_⟩
    rw [← List.nodup_reverse, ← List.map_reverse, split, List.map_append] at distinct
    exact List.disjoint_of_nodup_append distinct (List.mem_map_of_mem earlier)
      (same ▸ List.mem_map_of_mem List.mem_cons_self)

theorem loaded_of_offers (distinct : (directory.map (·.1)).Nodup) (registry : Registry) {slug : String}
    {schema : Schema} (offers : directory.Offers slug schema) :
    (registry.loadDirectory (some directory)).2.parsers[slug]? =
      some (.forTypes schema registry.maxLength) := by
  have last := (lookup_reverse_eq_some (distinct_registrations distinct)).mpr
    (mem_registrations.mpr offers)
  rw [loadDirectory_eq, parsers_putAll, Option.getD_some, last]
  rfl

theorem kept_of_no_offer (registry : Registry) {slug : String}
    (none : ∀ schema, ¬ directory.Offers slug schema) :
    (registry.loadDirectory (some directory)).2.parsers[slug]? = registry.parsers[slug]? := by
  have no_last : (registrations directory).reverse.lookup slug = Option.none := by
    refine List.lookup_eq_none_iff.mpr fun pair member => bne_iff_ne.mpr ?_
    rintro rfl
    exact none pair.2 (mem_registrations.mp (List.mem_reverse.mp member))
  rw [loadDirectory_eq, parsers_putAll, Option.getD_some, no_last]
  rfl

theorem putAll_of_perm {pairs permuted : List (String × Schema)}
    (distinct : (pairs.map (·.1)).Nodup) (same : pairs.Perm permuted) (registry : Registry) :
    registry.putAll permuted = registry.putAll pairs := by
  refine eq_of_parsers (by simp only [maxLength_putAll]) fun slug => ?_
  have distinct' := (same.map _).nodup_iff.mp distinct
  have lookups : permuted.reverse.lookup slug = pairs.reverse.lookup slug := by
    refine Option.ext fun schema => ?_
    rw [lookup_reverse_eq_some distinct, lookup_reverse_eq_some distinct', same.mem_iff]
  rw [parsers_putAll, parsers_putAll, lookups]

/-! The whole load. -/

/-- A directory loaded into a registry, with the count and the registry that come of it. -/
structure Loads (registry : Registry) (directory : Directory) (count : Nat) (after : Registry) :
    Prop where
  counted : count = directory.countP (Registers ·)
  offered : ∀ slug schema, directory.Offers slug schema → ∃ parser,
    Parser.ofSchema schema registry.maxLength = .ok parser ∧ after.parsers[slug]? = some parser
  kept : ∀ slug, (∀ schema, ¬ directory.Offers slug schema) →
    after.parsers[slug]? = registry.parsers[slug]?
  limit : after.maxLength = registry.maxLength
  /-- No two entries are about one graph. -/
  apart : ∀ slug, ∀ first ∈ directory, ∀ second ∈ directory,
    slugOf? first.1 = some slug → slugOf? second.1 = some slug → first = second
  /-- The same happens without the entries that register nothing. -/
  isolated : registry.loadDirectory (some (directory.filter (Registers ·))) = (count, after)

theorem loads_of_distinct (distinct : (directory.map (·.1)).Nodup) (registry : Registry) :
    registry.Loads directory (registry.loadDirectory (some directory)).1
      (registry.loadDirectory (some directory)).2 where
  counted := by rw [loadDirectory_eq, Option.getD_some, length_registrations]
  offered slug schema offers := by
    obtain ⟨_, _, holds⟩ := offers.2
    exact ⟨.forTypes schema registry.maxLength,
      Parser.ofSchema_of_valid (FileContent.holds_iff.mp holds).2 _,
      loaded_of_offers distinct registry offers⟩
  kept slug none := kept_of_no_offer registry none
  limit := by rw [loadDirectory_eq, maxLength_putAll]
  apart slug first member second member' := entry_of_slug distinct member member'
  isolated := by simp only [loadDirectory_eq, Option.getD_some, registrations_filter]

/-- The order of the entries makes no difference: the count and the registry are the same in every order.
Each graph the directory has a valid schema for gets the parser of that schema, and every other one stays
as it is. -/
theorem loadDirectory_of_perm (distinct : (directory.map (·.1)).Nodup) (same : directory.Perm other)
    (registry : Registry) :
    registry.loadDirectory (some other) = registry.loadDirectory (some directory) ∧
      registry.Loads directory (registry.loadDirectory (some directory)).1
        (registry.loadDirectory (some directory)).2 := by
  have registered : (registrations directory).Perm (registrations other) := same.filterMap _
  refine ⟨?_, loads_of_distinct distinct registry⟩
  rw [loadDirectory_eq, loadDirectory_eq, Option.getD_some, Option.getD_some, registered.length_eq,
    putAll_of_perm (distinct_registrations distinct) registered]

/-- The first of the two entries registers and the second does not, in both orders. -/
theorem loadDirectory_of_perm_town :
    let directory : Directory :=
      [("town.json".toUTF8, .file "\x7b\x7d".toUTF8), ("notes.json".toUTF8, .directory)]
    (directory.map (·.1)).Nodup ∧ directory.Perm directory.reverse ∧
      (empty 4096).loadDirectory (some directory.reverse) =
        (empty 4096).loadDirectory (some directory) ∧
      (empty 4096).Loads directory ((empty 4096).loadDirectory (some directory)).1
        ((empty 4096).loadDirectory (some directory)).2 :=
  ⟨by decide, (List.reverse_perm _).symm,
    loadDirectory_of_perm (by decide) (List.reverse_perm _).symm (empty 4096)⟩

/-- A valid schema under `.json` is not registered under the empty slug. -/
theorem exists_unnamed_schema :
    ∃ (directory : Directory) (content : FileContent) (schema : Schema),
      (directory.map (·.1)).Nodup ∧ (("" ++ ".json").toUTF8, content) ∈ directory ∧ content.Holds schema ∧
        ((empty 4096).loadDirectory (some directory)).1 = 0 ∧
        ((empty 4096).loadDirectory (some directory)).2.parsers[""]? = none := by
  refine ⟨[(".json".toUTF8, .file "\x7b\x7d".toUTF8)], .file "\x7b\x7d".toUTF8, {},
    by decide, List.mem_singleton.mpr rfl, ?_, ?_, ?_⟩
  · exact ⟨_, "\x7b\x7d", rfl, by decide +kernel, by decide +kernel, by decide +kernel⟩
  · decide +kernel
  · decide +kernel

end Registry
end GraphQuery
