import GraphQuery.Failure
import GraphQuery.Json.Reader
import GraphQuery.Json.Writer
import GraphQuery.Schema.Basic

/-! Schemas as JSON documents. Every record may be read from an object or from the list of its
fields, and members with other keys are passed over. -/

set_option autoImplicit false

namespace GraphQuery

open Json

/-! Writing. -/

def TypeId.toJson (id : TypeId) : Json :=
  .nat id.toNat

def Property.toJson (property : Property) : Json :=
  .object [("key", .string property.key)]

def NodeType.members (type : NodeType) : List (String × Json) :=
  [("id", TypeId.toJson type.id), ("name", .string type.name)]
    ++ (type.pluralName.map fun plural => ("plural_name", Json.string plural)).toList
    ++ [("properties", .array (type.properties.map (·.toJson)))]

def NodeType.toJson (type : NodeType) : Json :=
  .object type.members

def RelationshipType.toJson (type : RelationshipType) : Json :=
  .object (type.members ++
    [("source", TypeId.toJson type.source), ("target", TypeId.toJson type.target)])

def Schema.toJson (schema : Schema) : Json :=
  .object
    [("node_types", .array (schema.nodeTypes.map (·.toJson))),
     ("relationship_types", .array (schema.relationshipTypes.map (·.toJson)))]

/-! Reading. -/

def Property.read : Reader Property :=
  let member := fun (key : Option String) (name : String) =>
    if name = "key" then readField key readText some else .ok (skipAny *> pure key)
  readRecord
    (do
      let key ← readMembers readStringBody member none true
      pure ⟨← required key⟩)
    (do
      let key ← readRequiredItem readText true
      pure ⟨key⟩)

structure TypeFields where
  id : Option TypeId := none
  name : Option String := none
  pluralName : Option (Option String) := none
  properties : Option (List Property) := none
  source : Option TypeId := none
  target : Option TypeId := none

namespace TypeFields

def member (fields : TypeFields) (key : String) : Except Fault (Reader TypeFields) :=
  match key with
  | "id" => readField fields.id readUInt64 fun id => { fields with id }
  | "name" => readField fields.name readText fun name => { fields with name }
  | "plural_name" =>
    readField fields.pluralName (readOptional readText) fun plural =>
      { fields with pluralName := some plural }
  | "properties" =>
    readField fields.properties (readList Property.read) fun properties =>
      { fields with properties }
  | _ => .ok (skipAny *> pure fields)

def relationshipMember (fields : TypeFields) (key : String) : Except Fault (Reader TypeFields) :=
  match key with
  | "source" => readField fields.source readUInt64 fun source => { fields with source }
  | "target" => readField fields.target readUInt64 fun target => { fields with target }
  | _ => fields.member key

def nodeType (fields : TypeFields) : Except Fault NodeType := do
  pure {
    id := ← required fields.id
    name := ← required fields.name
    pluralName := fields.pluralName.join
    properties := fields.properties.getD [] }

def relationshipType (fields : TypeFields) : Except Fault RelationshipType := do
  pure {
    toNodeType := ← fields.nodeType
    source := ← required fields.source
    target := ← required fields.target }

def readItems : Reader TypeFields := do
  let id ← readRequiredItem readUInt64 true
  let name ← readRequiredItem readText false
  let plural ← readItem? (readOptional readText) false
  let properties ← readItem? (readList Property.read) false
  pure { id, name, pluralName := plural, properties }

end TypeFields

def NodeType.read : Reader NodeType :=
  readRecord
    (do (← readMembers readStringBody TypeFields.member {} true).nodeType)
    (do (← TypeFields.readItems).nodeType)

def RelationshipType.read : Reader RelationshipType :=
  readRecord
    (do (← readMembers readStringBody TypeFields.relationshipMember {} true).relationshipType)
    (do
      let fields ← TypeFields.readItems
      let source ← readRequiredItem readUInt64 false
      let target ← readRequiredItem readUInt64 false
      TypeFields.relationshipType { fields with source, target })

namespace Schema

structure Fields where
  nodeTypes : Option (List NodeType) := none
  relationshipTypes : Option (List RelationshipType) := none

def Fields.member (fields : Fields) (key : String) : Except Fault (Reader Fields) :=
  match key with
  | "node_types" =>
    readField fields.nodeTypes (readList NodeType.read) fun nodeTypes =>
      { fields with nodeTypes }
  | "relationship_types" =>
    readField fields.relationshipTypes (readList RelationshipType.read) fun relationshipTypes =>
      { fields with relationshipTypes }
  | _ => .ok (skipAny *> pure fields)

def Fields.schema (fields : Fields) : Schema where
  nodeTypes := fields.nodeTypes.getD []
  relationshipTypes := fields.relationshipTypes.getD []

def read : Reader Schema :=
  readRecord
    (do pure (← readMembers readStringBody Fields.member {} true).schema)
    (do
      let nodeTypes ← readItem? (readList NodeType.read) true
      let relationshipTypes ← readItem? (readList RelationshipType.read) false
      pure (Fields.schema { nodeTypes, relationshipTypes }))

def ofText (text : String) : Except Failure Schema :=
  (readWholeText read text).mapError fun _ => .document "not a schema document"

end Schema
end GraphQuery
