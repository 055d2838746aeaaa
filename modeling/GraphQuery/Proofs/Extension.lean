import GraphQuery.Proofs.Outcomes
import GraphQuery.Proofs.Query.Mentions

/-! Schemas with one more type.

A query that does not mention the new type has the same plan under both schemas, or under neither of them.
Its tree is the same, since all types that it mentions are, and the ids in it lead to the same entries. -/

set_option autoImplicit false

namespace GraphQuery

open Text Grammar Query Query.Normalized Query.Matcher

/-! One more type. -/

namespace Schema

/-- The larger schema declares one more type, anywhere among those of its kind. -/
inductive Inserted : Kind → NodeType → Schema → Schema → Prop where
  | node {before after : List NodeType} {type : NodeType} {relationshipTypes : List RelationshipType} :
      Inserted .node type ⟨before ++ after, relationshipTypes⟩
        ⟨before ++ type :: after, relationshipTypes⟩
  | relationship {before after : List RelationshipType} {type : RelationshipType}
      {nodeTypes : List NodeType} :
      Inserted .relationship type.toNodeType ⟨nodeTypes, before ++ after⟩
        ⟨nodeTypes, before ++ type :: after⟩

variable {kind : Kind} {type : NodeType} {schema larger : Schema}

theorem Inserted.mem_types (inserted : Inserted kind type schema larger) {other : Kind}
    {declared : NodeType} (member : declared ∈ schema.types other) : declared ∈ larger.types other := by
  cases inserted <;> cases other <;>
    simp only [types, List.map_append, List.map_cons, List.mem_append, List.mem_cons] at member ⊢ <;>
    tauto

theorem Inserted.mentioned_eq (inserted : Inserted kind type schema larger) {text : List Char}
    (unmentioned : ¬ (TypeEntry.ofType kind type).Mentioned text) :
    (ofTypes larger).mentioned text = (ofTypes schema).mentioned text := by
  cases inserted <;> simp [mentioned, ofTypes, unmentioned]

theorem entry_of_declared (valid : schema.validate = .ok ()) {declared : NodeType}
    (member : declared ∈ schema.types kind) :
    Grammar.entry? (ofTypes schema) kind declared.id = some (.ofType kind declared) := by
  have selected : declared ∈ (schema.types kind).filter (·.id == declared.id) :=
    List.mem_filter.mpr ⟨member, by simp⟩
  rcases entry_cases valid kind declared.id with ⟨found, once, entry⟩ | ⟨none, _⟩
  · rw [once, List.mem_singleton] at selected
    rw [entry, selected]
  · rw [none] at selected
    cases selected

theorem Inserted.entry_kept (inserted : Inserted kind type schema larger)
    (valid : larger.validate = .ok ()) {other : Kind} {id : TypeId} {entry : TypeEntry}
    (found : Grammar.entry? (ofTypes schema) other id = some entry) :
    Grammar.entry? (ofTypes larger) other id = some entry := by
  obtain ⟨member, rfl⟩ := mem_entries_of_found found
  rw [entries_ofTypes] at member
  obtain ⟨declared, listed, rfl⟩ := List.mem_map.mp member
  exact entry_of_declared valid (inserted.mem_types listed)

end Schema

namespace Parser

/-- A new type leaves alone all queries in which none of its forms occurs. -/
theorem parse_iff_of_inserted {schema larger : Schema} {kind : Kind} {type : NodeType} {maxLength : Nat}
    {parser other : Parser} {query : String} (assembled : ofSchema schema maxLength = .ok parser)
    (assembled' : ofSchema larger maxLength = .ok other)
    (inserted : Schema.Inserted kind type schema larger)
    (unmentioned : ∀ form ∈ (TypeEntry.ofType kind type).forms, ¬ form <:+: (ofQuery query.toList).text)
    (plan : Plan) : parser.parse query = .ok plan ↔ other.parse query = .ok plan := by
  obtain ⟨_, rfl⟩ := ofSchema_eq_ok.mp assembled
  obtain ⟨valid, rfl⟩ := ofSchema_eq_ok.mp assembled'
  have reads : (tree (ofTypes larger)).read? (ofQuery query.toList).text =
      (tree (ofTypes schema)).read? (ofQuery query.toList).text := by
    rw [read_tree_mentioned, read_tree_mentioned (ofTypes schema),
      inserted.mentioned_eq fun ⟨form, listed, inside⟩ => unmentioned form listed inside]
  have kept : Plan.Keeps (ofTypes schema) (ofTypes larger) := fun _ _ entry found =>
    ⟨entry.name, inserted.entry_kept valid found⟩
  simp only [parse_eq_ok, reads]
  refine and_congr_right fun _ => or_congr_right (and_congr_right fun _ => exists_congr fun found => ?_)
  constructor
  · rintro ⟨labels, read, reduced⟩
    exact ⟨labels, read, Plan.ofTree_of_keeps kept reduced⟩
  -- The tree has a plan under the smaller schema too, and it is this one.
  · rintro ⟨labels, read, reduced⟩
    obtain ⟨first, after, reduced'⟩ := exists_ofTree_of_treeText .fresh (tree_of_read read).1
    have same := (Plan.ofTree_of_keeps kept reduced').symm.trans reduced
    cases same
    exact ⟨labels, read, reduced'⟩

def house : NodeType where
  id := 3
  name := "House"
  properties := [⟨"name"⟩]

def housedSchema : Schema where
  nodeTypes := townSchema.nodeTypes.take 1 ++ house :: townSchema.nodeTypes.drop 1
  relationshipTypes := townSchema.relationshipTypes

def housedParser : Parser where
  grammar := .ofTypes housedSchema
  maxLength := defaultMaxLength

theorem parse_iff_of_inserted_town :
    ofSchema townSchema defaultMaxLength = .ok townParser ∧
      ofSchema housedSchema defaultMaxLength = .ok housedParser ∧
      Schema.Inserted .node house townSchema housedSchema ∧
      (∀ form ∈ (TypeEntry.ofType .node house).forms,
        ¬ form <:+: (ofQuery "name of People  with age 3 who lives in a City".toList).text) ∧
      ∃ plan, townParser.parse "name of People  with age 3 who lives in a City" = .ok plan ∧
        housedParser.parse "name of People  with age 3 who lives in a City" = .ok plan := by
  have assembled : ofSchema housedSchema defaultMaxLength = .ok housedParser :=
    eq_ok_of_toOption (by decide +kernel)
  have inserted : Schema.Inserted .node house townSchema housedSchema :=
    show Schema.Inserted .node house
      ⟨townSchema.nodeTypes.take 1 ++ townSchema.nodeTypes.drop 1, townSchema.relationshipTypes⟩
      housedSchema from .node
  have unmentioned : ∀ form ∈ (TypeEntry.ofType .node house).forms,
      ¬ form <:+: (ofQuery "name of People  with age 3 who lives in a City".toList).text := by
    decide +kernel
  obtain ⟨plan, parsed⟩ := exists_plan
    (show (townParser.parse "name of People  with age 3 who lives in a City").toOption.isSome = true by
      decide +kernel)
  exact ⟨ofSchema_town, assembled, inserted, unmentioned, plan, parsed,
    (parse_iff_of_inserted ofSchema_town assembled inserted unmentioned plan).mp parsed⟩

end Parser
end GraphQuery
