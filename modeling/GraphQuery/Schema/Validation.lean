import GraphQuery.Schema.Basic
import GraphQuery.Text.Whitespace

/-! Schemas from which a grammar can be built.

Names, plurals and keys must be words as they stand in a query: not empty, with single spaces
inside and none around. Ids are unique for each kind, keys for each type, and relationships
connect declared node types. -/

set_option autoImplicit false

namespace GraphQuery.Schema

inductive WordPlace where
  | name (kind : Kind) (id : TypeId)
  | plural (kind : Kind) (id : TypeId)
  | key (kind : Kind) (id : TypeId)
  deriving DecidableEq, Repr

def WordPlace.describe : WordPlace → String
  | .name kind id => s!"name of {kind.name} type {id}"
  | .plural kind id => s!"plural name of {kind.name} type {id}"
  | .key kind id => s!"property key of {kind.name} type {id}"

inductive Flaw where
  | repeatedId (kind : Kind) (id : TypeId)
  | emptyWord (place : WordPlace)
  | looseWord (place : WordPlace) (word : String)
  | repeatedKey (kind : Kind) (id : TypeId) (key : String)
  | unknownEndpoint (name : String) (id : TypeId)
  deriving DecidableEq, Repr

def Flaw.message : Flaw → String
  | .repeatedId kind id => s!"{kind.name} type id {id} is declared more than once"
  | .emptyWord place => s!"{place.describe} is empty"
  | .looseWord place word =>
    s!"{place.describe} '{word}' has leading, trailing or repeated whitespace"
  | .repeatedKey kind id key =>
    s!"property '{key}' of {kind.name} type {id} is declared more than once"
  | .unknownEndpoint name id =>
    s!"relationship type '{name}' refers to unknown node type id {id}"

def checkWord (place : WordPlace) (word : String) : Except Flaw Unit :=
  if Text.trim word.toList = [] then throw (.emptyWord place)
  else if Text.collapse word.toList ≠ word.toList then throw (.looseWord place word)
  else pure ()

def checkKeys (kind : Kind) (id : TypeId) (seen : List String) :
    List Property → Except Flaw Unit
  | [] => pure ()
  | property :: rest => do
    checkWord (.key kind id) property.key
    if property.key ∈ seen then throw (.repeatedKey kind id property.key)
    checkKeys kind id (property.key :: seen) rest

def checkWords (kind : Kind) (type : NodeType) : Except Flaw Unit := do
  checkWord (.name kind type.id) type.name
  if let some plural := type.pluralName then checkWord (.plural kind type.id) plural
  checkKeys kind type.id [] type.properties

def checkNodeTypes (seen : List TypeId) : List NodeType → Except Flaw Unit
  | [] => pure ()
  | type :: rest => do
    if type.id ∈ seen then throw (.repeatedId .node type.id)
    checkWords .node type
    checkNodeTypes (type.id :: seen) rest

def checkEndpoint (nodeIds : List TypeId) (type : RelationshipType) (endpoint : TypeId) :
    Except Flaw Unit :=
  if endpoint ∈ nodeIds then pure () else throw (.unknownEndpoint type.name endpoint)

def checkRelationshipTypes (nodeIds seen : List TypeId) :
    List RelationshipType → Except Flaw Unit
  | [] => pure ()
  | type :: rest => do
    if type.id ∈ seen then throw (.repeatedId .relationship type.id)
    checkWords .relationship type.toNodeType
    checkEndpoint nodeIds type type.source
    checkEndpoint nodeIds type type.target
    checkRelationshipTypes nodeIds (type.id :: seen) rest

/-- Refuses a schema for its first flaw in reading order. -/
def validate (schema : Schema) : Except Flaw Unit := do
  checkNodeTypes [] schema.nodeTypes
  checkRelationshipTypes (schema.nodeTypes.map (·.id)) [] schema.relationshipTypes

end GraphQuery.Schema
