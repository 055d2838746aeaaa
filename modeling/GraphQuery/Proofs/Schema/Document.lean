import GraphQuery.Proofs.Json.Reader
import GraphQuery.Schema.Document

/-! Schemas are read back from their documents. -/

set_option autoImplicit false

namespace GraphQuery

open Json

theorem reads_property (property : Property) : Reads Property.read property.toJson property := by
  have fills : Fills (fun (key : Option String) (name : String) =>
      if name = "key" then readField key readText some else .ok (skipAny *> pure key))
      [("key", .string property.key)] none (some property.key) :=
    .cons rfl ((reads_text property.key).map some) .nil
  exact reads_record fun rest => by
    rw [bind_of_read (readMembers_write fills rest)]
    rfl

theorem NodeType.fills_members (type : NodeType)
    {member : TypeFields → String → Except Fault (Reader TypeFields)} {more : List (String × Json)}
    {after : TypeFields}
    (common : ∀ fields, ∀ key ∈ ["id", "name", "plural_name", "properties"],
      member fields key = fields.member key)
    (others : Fills member more
      { id := type.id, name := type.name, pluralName := type.pluralName.map some,
        properties := type.properties } after) :
    Fills member (type.members ++ more) {} after := by
  have properties : Reads (readList Property.read) (.array (type.properties.map (·.toJson)))
      type.properties :=
    reads_list fun property _ => reads_property property
  unfold NodeType.members
  refine .cons (common _ "id" (by simp)) ((reads_uint64 type.id).map _)
    (.cons (common _ "name" (by simp)) ((reads_text type.name).map _) ?_)
  -- A plural is written only if it is declared.
  cases declared : type.pluralName with
  | none =>
    rw [declared] at others
    exact .cons (common _ "properties" (by simp)) (properties.map _) others
  | some plural =>
    rw [declared] at others
    exact .cons (common _ "plural_name" (by simp)) ((reads_optional plural).map _)
      (.cons (common _ "properties" (by simp)) (properties.map _) others)

theorem reads_nodeType (type : NodeType) : Reads NodeType.read type.toJson type := by
  have fills := @NodeType.fills_members type TypeFields.member _ _ (fun _ _ _ => rfl) .nil
  rw [List.append_nil] at fills
  refine reads_record fun rest => ?_
  rw [bind_of_read (readMembers_write fills rest)]
  cases type with
  | mk id name plural properties => cases plural <;> rfl

theorem reads_relationshipType (type : RelationshipType) :
    Reads RelationshipType.read type.toJson type := by
  have common : ∀ fields : TypeFields, ∀ key ∈ ["id", "name", "plural_name", "properties"],
      fields.relationshipMember key = fields.member key := by
    intro fields key member
    simp only [List.mem_cons, List.not_mem_nil, or_false] at member
    rcases member with rfl | rfl | rfl | rfl <;> rfl
  have endpoints : Fills TypeFields.relationshipMember
      [("source", TypeId.toJson type.source), ("target", TypeId.toJson type.target)]
      { id := type.id, name := type.name, pluralName := type.pluralName.map some,
        properties := type.properties }
      { id := type.id, name := type.name, pluralName := type.pluralName.map some,
        properties := type.properties, source := type.source, target := type.target } :=
    .cons rfl ((reads_uint64 type.source).map _) (.cons rfl ((reads_uint64 type.target).map _) .nil)
  have fills := type.fills_members common endpoints
  refine reads_record fun rest => ?_
  rw [bind_of_read (readMembers_write fills rest)]
  cases type with
  | mk type source target =>
    cases type with
    | mk id name plural properties => cases plural <;> rfl

namespace Schema

theorem reads_schema (schema : Schema) : Reads Schema.read schema.toJson schema := by
  have nodeTypes : Reads (readList NodeType.read) (.array (schema.nodeTypes.map (·.toJson)))
      schema.nodeTypes :=
    reads_list fun type _ => reads_nodeType type
  have relationshipTypes : Reads (readList RelationshipType.read)
      (.array (schema.relationshipTypes.map (·.toJson))) schema.relationshipTypes :=
    reads_list fun type _ => reads_relationshipType type
  have fills : Fills Fields.member
      [("node_types", .array (schema.nodeTypes.map (·.toJson))),
       ("relationship_types", .array (schema.relationshipTypes.map (·.toJson)))]
      {} { nodeTypes := some schema.nodeTypes, relationshipTypes := some schema.relationshipTypes } :=
    .cons rfl (nodeTypes.map _) (.cons rfl (relationshipTypes.map _) .nil)
  exact reads_record fun rest => by
    rw [bind_of_read (readMembers_write fills rest)]
    rfl

/-- A schema, valid or not, is what its document says. -/
theorem ofText_render_toJson (schema : Schema) : ofText (render schema.toJson) = .ok schema := by
  have read : Schema.read (write schema.toJson) = .ok (schema, []) := by
    rw [← List.append_nil (write schema.toJson)]
    exact reads_schema schema (show Ends [] by simp [Ends])
  have whole : readWholeText Schema.read (render schema.toJson) = .ok schema := by
    rw [readWholeText, render, String.toList_ofList, read, ok_bind]
    exact if_pos rfl
  rw [ofText, whole]
  rfl

end Schema
end GraphQuery
