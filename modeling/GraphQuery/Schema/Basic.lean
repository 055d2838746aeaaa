/-! Graph schemas: the node types and relationship types that queries may speak of.

Declaration order matters, since it decides between types whose names read alike. -/

set_option autoImplicit false

namespace GraphQuery

/-- Identifies a type among those of its kind. -/
abbrev TypeId := UInt64

inductive Kind where
  | node
  | relationship
  deriving DecidableEq, Repr

def Kind.name : Kind → String
  | .node => "node"
  | .relationship => "relationship"

structure Property where
  key : String
  deriving DecidableEq, Repr

/-- A type of nodes, and what a type of relationships has in common with it. -/
structure NodeType where
  id : TypeId
  name : String
  pluralName : Option String := none
  properties : List Property := []
  deriving DecidableEq, Repr

/-- The declared plural, or the name followed by an `s`. -/
def NodeType.plural (type : NodeType) : String :=
  type.pluralName.getD (type.name ++ "s")

structure RelationshipType extends NodeType where
  source : TypeId
  target : TypeId
  deriving DecidableEq, Repr

structure Schema where
  nodeTypes : List NodeType := []
  relationshipTypes : List RelationshipType := []
  deriving DecidableEq, Repr

namespace Schema

def nodeType? (schema : Schema) (id : TypeId) : Option NodeType :=
  schema.nodeTypes.find? (·.id == id)

def relationshipType? (schema : Schema) (id : TypeId) : Option RelationshipType :=
  schema.relationshipTypes.find? (·.id == id)

end Schema
end GraphQuery
