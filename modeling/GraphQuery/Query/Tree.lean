import GraphQuery.Plan.Basic

/-! What a query says, as a tree. Types are named by their ids. -/

set_option autoImplicit false

namespace GraphQuery.Query

inductive Value where
  | literal (quote : Char) (text : String)
  | bare (text : String)
  deriving DecidableEq, Repr

def Value.text : Value → String
  | .literal _ text | .bare text => text

structure Clause where
  key : String
  lookup : Lookup
  value : Value
  deriving DecidableEq, Repr

/-- One mention of a node type, with the properties asked for and the conditions on it. -/
structure Facet where
  typeId : TypeId
  projection : Option (List String)
  clauses : List Clause
  deriving DecidableEq, Repr

structure Hop where
  relation : TypeId
  targets : List Facet
  deriving DecidableEq, Repr

structure Tree where
  sources : List Facet
  hops : List Hop
  deriving DecidableEq, Repr

end GraphQuery.Query
