import GraphQuery.Schema.Validation
import Mathlib.Data.List.Nodup
import Mathlib.Tactic.Tauto

/-! What the checks of a schema establish. -/

set_option autoImplicit false

namespace GraphQuery

theorem bind_eq_ok {ε α β : Type} {first : Except ε α} {next : α → Except ε β} {result : β} :
    (first >>= next) = .ok result ↔ ∃ value, first = .ok value ∧ next value = .ok result := by
  cases first <;> simp [bind, Except.bind]

theorem mapError_eq_ok {ε φ α : Type} {outcome : Except ε α} {change : ε → φ} {result : α} :
    outcome.mapError change = .ok result ↔ outcome = .ok result := by
  cases outcome <;> simp [Except.mapError]

theorem toOption_eq_some {ε α : Type} {outcome : Except ε α} {value : α} :
    outcome.toOption = some value ↔ outcome = .ok value := by
  cases outcome <;> simp [Except.toOption]

theorem check_then_eq_ok {ε α : Type} {check : Except ε Unit} {next : Except ε α} {result : α} :
    (check >>= fun _ => next) = .ok result ↔ check = .ok () ∧ next = .ok result := by
  cases check <;> simp [bind, Except.bind]

theorem guard_eq_ok {ε α β : Type} {condition : Prop} [Decidable condition] {error : ε}
    {next : Except ε α} {result : α} :
    (if condition then (throw error : Except ε β) >>= fun _ => next else next) = .ok result ↔
      ¬condition ∧ next = .ok result := by
  by_cases holds : condition <;>
    simp [holds, bind, Except.bind, throw, throwThe, MonadExceptOf.throw]

namespace Schema

def Fresh (seen ids : List TypeId) : Prop :=
  (∀ id ∈ ids, id ∉ seen) ∧ ids.Nodup

@[simp] theorem fresh_nil {seen : List TypeId} : Fresh seen [] := by
  simp [Fresh]

theorem fresh_cons {seen : List TypeId} {id : TypeId} {rest : List TypeId} :
    Fresh seen (id :: rest) ↔ id ∉ seen ∧ Fresh (id :: seen) rest := by
  simp only [Fresh, List.mem_cons, not_or, List.nodup_cons, forall_eq_or_imp]
  constructor
  · rintro ⟨⟨new, later⟩, absent, distinct⟩
    exact ⟨new, fun other member => ⟨fun same => absent (same ▸ member), later other member⟩,
      distinct⟩
  · rintro ⟨new, later, distinct⟩
    exact ⟨⟨new, fun other member => (later other member).2⟩,
      fun member => (later id member).1 rfl, distinct⟩

/-- A word as a schema may have it: not empty, with single spaces inside and none around. -/
def Tidy (word : String) : Prop :=
  Text.trim word.toList ≠ [] ∧ Text.collapse word.toList = word.toList

theorem checkWord_eq_ok {place : WordPlace} {word : String} :
    checkWord place word = .ok () ↔ Tidy word := by
  unfold checkWord Tidy
  split
  · simp [*, throw, throwThe, MonadExceptOf.throw]
  · split <;> simp_all [pure, Except.pure, throw, throwThe, MonadExceptOf.throw]

theorem checkKeys_eq_ok {kind : Kind} {id : TypeId} {seen : List String} {properties : List Property} :
    checkKeys kind id seen properties = .ok () ↔
      (∀ property ∈ properties, Tidy property.key ∧ property.key ∉ seen) ∧
        (properties.map (·.key)).Nodup := by
  induction properties generalizing seen with
  | nil => simp [checkKeys, pure, Except.pure]
  | cons property rest ih =>
    simp only [checkKeys, check_then_eq_ok, checkWord_eq_ok, guard_eq_ok, ih, List.map_cons,
      List.nodup_cons, List.forall_mem_cons]
    simp only [List.mem_cons, not_or, List.mem_map, not_exists, not_and]
    constructor
    · rintro ⟨tidy, new, later, distinct⟩
      exact ⟨⟨⟨tidy, new⟩, fun other member => ⟨(later other member).1, (later other member).2.2⟩⟩,
        fun other member => (later other member).2.1, distinct⟩
    · rintro ⟨⟨⟨tidy, new⟩, later⟩, absent, distinct⟩
      exact ⟨tidy, new, fun other member =>
        ⟨(later other member).1, absent other member, (later other member).2⟩, distinct⟩

/-- What is asked of the words of a type has nothing to do with its kind or its id. -/
theorem checkWords_eq_ok {kind : Kind} {type : NodeType} :
    checkWords kind type = .ok () ↔
      Tidy type.name ∧ (∀ plural ∈ type.pluralName, Tidy plural) ∧
        (∀ property ∈ type.properties, Tidy property.key) ∧ (type.properties.map (·.key)).Nodup := by
  unfold checkWords
  cases type.pluralName <;>
    simp [check_then_eq_ok, checkWord_eq_ok, checkKeys_eq_ok]

theorem checkNodeTypes_eq_ok {seen : List TypeId} {types : List NodeType} :
    checkNodeTypes seen types = .ok () ↔
      Fresh seen (types.map (·.id)) ∧ ∀ type ∈ types, checkWords .node type = .ok () := by
  induction types generalizing seen with
  | nil => simp [checkNodeTypes, pure, Except.pure]
  | cons type rest ih =>
    simp only [checkNodeTypes, guard_eq_ok, check_then_eq_ok, ih, List.map_cons, fresh_cons,
      List.forall_mem_cons]
    tauto

theorem checkEndpoint_eq_ok {nodeIds : List TypeId} {type : RelationshipType} {endpoint : TypeId} :
    checkEndpoint nodeIds type endpoint = .ok () ↔ endpoint ∈ nodeIds := by
  unfold checkEndpoint
  split <;> simp [*, pure, Except.pure, throw, throwThe, MonadExceptOf.throw]

theorem checkRelationshipTypes_eq_ok {nodeIds seen : List TypeId} {types : List RelationshipType} :
    checkRelationshipTypes nodeIds seen types = .ok () ↔
      Fresh seen (types.map (·.id)) ∧
        ∀ type ∈ types, checkWords .relationship type.toNodeType = .ok () ∧
          type.source ∈ nodeIds ∧ type.target ∈ nodeIds := by
  induction types generalizing seen with
  | nil => simp [checkRelationshipTypes, pure, Except.pure]
  | cons type rest ih =>
    simp only [checkRelationshipTypes, guard_eq_ok, check_then_eq_ok, checkEndpoint_eq_ok, ih,
      List.map_cons, fresh_cons, List.forall_mem_cons]
    tauto

theorem validate_eq_ok {schema : Schema} :
    schema.validate = .ok () ↔
      checkNodeTypes [] schema.nodeTypes = .ok () ∧
        checkRelationshipTypes (schema.nodeTypes.map (·.id)) [] schema.relationshipTypes = .ok () :=
  check_then_eq_ok

theorem ids_nodup_of_validate {schema : Schema} (valid : schema.validate = .ok ()) :
    (schema.nodeTypes.map (·.id)).Nodup ∧ (schema.relationshipTypes.map (·.id)).Nodup := by
  obtain ⟨nodes, relationships⟩ := validate_eq_ok.mp valid
  exact ⟨(checkNodeTypes_eq_ok.mp nodes).1.2, (checkRelationshipTypes_eq_ok.mp relationships).1.2⟩

def types (schema : Schema) : Kind → List NodeType
  | .node => schema.nodeTypes
  | .relationship => schema.relationshipTypes.map (·.toNodeType)

theorem nodup_ids_of_validate {schema : Schema} (valid : schema.validate = .ok ()) (kind : Kind) :
    ((schema.types kind).map (·.id)).Nodup := by
  obtain ⟨nodes, relationships⟩ := ids_nodup_of_validate valid
  cases kind with
  | node => exact nodes
  | relationship => simpa [types, Function.comp_def] using relationships

/-- An id is declared at most once. -/
theorem length_filter_id_le_one {schema : Schema} (valid : schema.validate = .ok ()) (kind : Kind)
    (id : TypeId) : ((schema.types kind).filter (·.id == id)).length ≤ 1 := by
  have once := List.nodup_iff_count_le_one.mp (nodup_ids_of_validate valid kind) id
  rw [← List.countP_eq_length_filter]
  simpa [List.count, List.countP_map, Function.comp_def] using once

end Schema
end GraphQuery
