import GraphQuery.Plan.Document
import Mathlib.Data.List.Basic

/-! Documents of plans.

A plan is read back from its document, and the documents are exactly the values of one shape. Putting
plans together puts their documents together, list by list. -/

set_option autoImplicit false

namespace GraphQuery

open Json

/-! The shape. -/

def Origin.IsDocument (json : Json) : Prop :=
  ∃ typeId < UInt64.size, ∃ kind ∈ ["node", "relationship"], ∃ label,
    json = .object [("type_id", .nat typeId), ("type", .string kind), ("alias", .string label)]

def Condition.IsDocument (json : Json) : Prop :=
  ∃ lookup ∈ ["iexact", "istartswith", "iendswith", "gt", "lt"], ∃ label key value,
    json = .array [.string lookup, .array [.string "property", .string label, .string key], .string value]

def Pattern.IsDocument (json : Json) : Prop :=
  ∃ source target relation, Origin.IsDocument source ∧ Origin.IsDocument target ∧
    Origin.IsDocument relation ∧
      json = .object [("source", source), ("target", target), ("relation", relation)]

def Selection.IsDocument (json : Json) : Prop :=
  ∃ label properties, (properties = .null ∨ ∃ keys : List String, properties = strings keys) ∧
    json = .object [("alias", .string label), ("properties", properties)]

def Plan.IsDocument (json : Json) : Prop :=
  ∃ conditions origins patterns results,
    (∀ item ∈ conditions, Condition.IsDocument item) ∧ (∀ item ∈ origins, Origin.IsDocument item) ∧
      (∀ item ∈ patterns, Pattern.IsDocument item) ∧ (∀ item ∈ results, Selection.IsDocument item) ∧
        json = .object [("conditions", .array conditions), ("origins", .array origins),
          ("patterns", .array patterns), ("results", .array results)]

/-! Names of lookups and kinds. -/

theorem Lookup.ofName?_name (lookup : Lookup) : Lookup.ofName? lookup.name = some lookup := by
  cases lookup <;> rfl

theorem Lookup.exists_name_iff {name : String} :
    (∃ lookup : Lookup, lookup.name = name) ↔
      name ∈ ["iexact", "istartswith", "iendswith", "gt", "lt"] := by
  constructor
  · rintro ⟨lookup, rfl⟩
    cases lookup <;> decide
  · intro member
    simp only [List.mem_cons, List.not_mem_nil, or_false] at member
    rcases member with rfl | rfl | rfl | rfl | rfl
    · exact ⟨.iexact, rfl⟩
    · exact ⟨.istartswith, rfl⟩
    · exact ⟨.iendswith, rfl⟩
    · exact ⟨.gt, rfl⟩
    · exact ⟨.lt, rfl⟩

theorem Kind.ofName?_name (kind : Kind) : Kind.ofName? kind.name = some kind := by
  cases kind <;> rfl

theorem Kind.exists_name_iff {name : String} :
    (∃ kind : Kind, kind.name = name) ↔ name ∈ ["node", "relationship"] := by
  constructor
  · rintro ⟨kind, rfl⟩
    cases kind <;> decide
  · intro member
    simp only [List.mem_cons, List.not_mem_nil, or_false] at member
    rcases member with rfl | rfl
    · exact ⟨.node, rfl⟩
    · exact ⟨.relationship, rfl⟩

/-! Reading back. -/

theorem TypeId.ofJson?_nat (typeId : TypeId) : TypeId.ofJson? (.nat typeId.toNat) = some typeId := by
  have small : typeId.toNat < UInt64.size := typeId.toNat_lt
  simp [TypeId.ofJson?, nat, toNat?, Number.toNat?, small]

theorem Origin.ofJson?_toJson (origin : Origin) : Origin.ofJson? origin.toJson = some origin := by
  simp [Origin.ofJson?, Origin.toJson, member?, List.lookup_cons, toText?, TypeId.ofJson?_nat,
    Kind.ofName?_name]

theorem Condition.ofJson?_toJson (condition : Condition) :
    Condition.ofJson? condition.toJson = some condition := by
  simp [Condition.ofJson?, Condition.toJson, strings, Lookup.ofName?_name]

theorem Pattern.ofJson?_toJson (pattern : Pattern) : Pattern.ofJson? pattern.toJson = some pattern := by
  simp [Pattern.ofJson?, Pattern.toJson, member?, List.lookup_cons, Origin.ofJson?_toJson]

theorem mapM_map_eq_some {α β : Type} {encode : α → β} {decode : β → Option α}
    (inverse : ∀ value, decode (encode value) = some value) (values : List α) :
    (values.map encode).mapM decode = some values := by
  induction values with
  | nil => rfl
  | cons value rest ih => simp [inverse, ih]

theorem textsOfJson?_strings (texts : List String) : textsOfJson? (strings texts) = some texts := by
  have read : ∀ text : String, toText? (.string text) = some text := fun _ => rfl
  exact mapM_map_eq_some read texts

theorem Selection.ofJson?_toJson (selection : Selection) :
    Selection.ofJson? selection.toJson = some selection := by
  obtain ⟨label, properties⟩ := selection
  cases properties with
  | none => simp [Selection.ofJson?, Selection.toJson, member?, List.lookup_cons, toText?]
  | some keys =>
    have read := textsOfJson?_strings keys
    simp [Selection.ofJson?, Selection.toJson, member?, List.lookup_cons, toText?, strings] at read ⊢
    simp [read]

theorem listOfJson?_map {α : Type} {encode : α → Json} {decode : Json → Option α}
    (inverse : ∀ value, decode (encode value) = some value) (values : List α) :
    listOfJson? decode (some (.array (values.map encode))) = some values :=
  mapM_map_eq_some inverse values

theorem Plan.ofJson?_toJson (plan : Plan) : Plan.ofJson? plan.toJson = some plan := by
  simp [Plan.ofJson?, Plan.toJson, member?, List.lookup_cons, listOfJson?_map Condition.ofJson?_toJson,
    listOfJson?_map Origin.ofJson?_toJson, listOfJson?_map Pattern.ofJson?_toJson,
    listOfJson?_map Selection.ofJson?_toJson]

/-! Every value of the shape is a document. -/

theorem Origin.isDocument_iff {json : Json} :
    Origin.IsDocument json ↔ ∃ origin : Origin, origin.toJson = json := by
  constructor
  · rintro ⟨typeId, small, name, named, label, rfl⟩
    obtain ⟨kind, rfl⟩ := Kind.exists_name_iff.mpr named
    refine ⟨⟨.ofNat typeId, kind, label⟩, ?_⟩
    simp [Origin.toJson, UInt64.toNat_ofNat_of_lt' small]
  · rintro ⟨⟨typeId, kind, label⟩, rfl⟩
    exact ⟨typeId.toNat, typeId.toNat_lt, kind.name, Kind.exists_name_iff.mp ⟨kind, rfl⟩, label, rfl⟩

theorem Condition.isDocument_iff {json : Json} :
    Condition.IsDocument json ↔ ∃ condition : Condition, condition.toJson = json := by
  constructor
  · rintro ⟨name, named, label, key, value, rfl⟩
    obtain ⟨lookup, rfl⟩ := Lookup.exists_name_iff.mpr named
    exact ⟨⟨lookup, label, key, value⟩, rfl⟩
  · rintro ⟨⟨lookup, label, key, value⟩, rfl⟩
    exact ⟨lookup.name, Lookup.exists_name_iff.mp ⟨lookup, rfl⟩, label, key, value, rfl⟩

theorem Pattern.isDocument_iff {json : Json} :
    Pattern.IsDocument json ↔ ∃ pattern : Pattern, pattern.toJson = json := by
  simp only [Pattern.IsDocument, Origin.isDocument_iff]
  constructor
  · rintro ⟨_, _, _, ⟨source, rfl⟩, ⟨target, rfl⟩, ⟨relation, rfl⟩, rfl⟩
    exact ⟨⟨source, target, relation⟩, rfl⟩
  · rintro ⟨⟨source, target, relation⟩, rfl⟩
    exact ⟨_, _, _, ⟨source, rfl⟩, ⟨target, rfl⟩, ⟨relation, rfl⟩, rfl⟩

theorem Selection.isDocument_iff {json : Json} :
    Selection.IsDocument json ↔ ∃ selection : Selection, selection.toJson = json := by
  constructor
  · rintro ⟨label, _, rfl | ⟨keys, rfl⟩, rfl⟩
    · exact ⟨⟨label, none⟩, rfl⟩
    · exact ⟨⟨label, some keys⟩, rfl⟩
  · rintro ⟨⟨label, properties⟩, rfl⟩
    cases properties with
    | none => exact ⟨label, .null, .inl rfl, rfl⟩
    | some keys => exact ⟨label, strings keys, .inr ⟨keys, rfl⟩, rfl⟩

theorem exists_map_iff {α β : Type} {encode : α → β} {items : List β} :
    (∀ item ∈ items, ∃ value, encode value = item) ↔ ∃ values : List α, values.map encode = items := by
  constructor
  · intro each
    induction items with
    | nil => exact ⟨[], rfl⟩
    | cons item rest ih =>
      obtain ⟨⟨value, rfl⟩, others⟩ := List.forall_mem_cons.mp each
      obtain ⟨values, rfl⟩ := ih others
      exact ⟨value :: values, rfl⟩
  · rintro ⟨values, rfl⟩ item member
    obtain ⟨value, _, same⟩ := List.mem_map.mp member
    exact ⟨value, same⟩

theorem Plan.isDocument_iff {json : Json} :
    Plan.IsDocument json ↔ ∃ plan : Plan, plan.toJson = json := by
  simp only [Plan.IsDocument, Condition.isDocument_iff, Origin.isDocument_iff, Pattern.isDocument_iff,
    Selection.isDocument_iff, exists_map_iff]
  constructor
  · rintro ⟨_, _, _, _, ⟨conditions, rfl⟩, ⟨origins, rfl⟩, ⟨patterns, rfl⟩, ⟨results, rfl⟩, rfl⟩
    exact ⟨⟨conditions, origins, patterns, results⟩, rfl⟩
  · rintro ⟨plan, rfl⟩
    exact ⟨_, _, _, _, ⟨plan.conditions, rfl⟩, ⟨plan.origins, rfl⟩, ⟨plan.patterns, rfl⟩,
      ⟨plan.results, rfl⟩, rfl⟩

namespace Plan

/-! Documents of plans that are put together. -/

def listed (key : String) (json : Json) : List Json :=
  ((json.member? key).bind toItems?).getD []

/-- The object of four lists that are found under their names in documents, one document after the other. -/
def concatenation (documents : List Json) : Json :=
  .object
    [("conditions", .array (documents.flatMap (listed "conditions"))),
     ("origins", .array (documents.flatMap (listed "origins"))),
     ("patterns", .array (documents.flatMap (listed "patterns"))),
     ("results", .array (documents.flatMap (listed "results")))]

theorem toJson_merge (plans : List Plan) :
    (merge plans).toJson = concatenation (plans.map (·.toJson)) := by
  induction plans with
  | nil => rfl
  | cons plan rest ih =>
    simp only [Plan.toJson, concatenation, Json.object.injEq, List.cons.injEq, Prod.mk.injEq,
      Json.array.injEq, true_and, and_true] at ih
    obtain ⟨conditions, origins, patterns, results⟩ := ih
    simp only [Plan.toJson, merge_cons, concatenation, List.map_cons, List.flatMap_cons,
      conditions_append, origins_append, patterns_append, results_append, List.map_append]
    rw [conditions, origins, patterns, results]
    rfl

/-- Nothing is lost in a document: the documents are the values of the shape, none is `null`, each is read
back as its plan, and no other plan has it. The whole of an origin is not an empty list of properties. -/
theorem documents_of_plans :
    (∀ json, IsDocument json ↔ ∃ plan : Plan, plan.toJson = json) ∧
      (∀ plan : Plan, IsDocument plan.toJson ∧ plan.toJson ≠ .null ∧ ofJson? plan.toJson = some plan) ∧
        Function.Injective Plan.toJson ∧
          (∀ label other : String,
            Selection.toJson ⟨label, none⟩ ≠ Selection.toJson ⟨other, some []⟩) ∧
            ∀ plans : List Plan, (merge plans).toJson = concatenation (plans.map (·.toJson)) := by
  refine ⟨fun _ => isDocument_iff, fun plan => ?_, fun first second same => ?_,
    fun label other same => ?_, toJson_merge⟩
  · exact ⟨isDocument_iff.mpr ⟨plan, rfl⟩, nofun, ofJson?_toJson plan⟩
  · have read := ofJson?_toJson first
    rw [same, ofJson?_toJson] at read
    exact (Option.some.inj read).symm
  · have read := Selection.ofJson?_toJson ⟨label, none⟩
    rw [same, Selection.ofJson?_toJson] at read
    cases read

end Plan
end GraphQuery
