import GraphQuery.Grammar.Forms
import GraphQuery.Schema.Basic

/-! Entries of a grammar: how the types of a schema and their properties are spoken of. -/

set_option autoImplicit false

namespace GraphQuery.Grammar

open Text

structure PropertyEntry where
  key : String
  forms : List (List Char)
  deriving DecidableEq, Repr

def PropertyEntry.ofKey (key : String) : PropertyEntry where
  key := key
  forms := Grammar.forms key.toList (key ++ "s").toList

structure TypeEntry where
  kind : Kind
  id : TypeId
  name : String
  forms : List (List Char)
  properties : List PropertyEntry
  deriving DecidableEq, Repr

namespace TypeEntry

def ofType (kind : Kind) (type : NodeType) : TypeEntry where
  kind := kind
  id := type.id
  name := type.name
  forms := Grammar.forms type.name.toList type.plural.toList
  properties := type.properties.map fun property => .ofKey property.key

/-- The property that a condition means when it names none. -/
def onlyProperty? (entry : TypeEntry) : Option PropertyEntry :=
  match entry.properties with
  | [only] => some only
  | _ => none

def tag (entry : TypeEntry) : String :=
  match entry.kind with
  | .node => s!"n{entry.id}"
  | .relationship => s!"r{entry.id}"

def label (entry : TypeEntry) (ordinal : Nat) : String :=
  s!"{entry.tag}_{ordinal}"

def readProperty? (entry : TypeEntry) (text : List Char) : Option (Reading String) :=
  longest <| entry.properties.map fun property =>
    (readForm? property.forms text).map fun reading => (property.key, reading.2)

end TypeEntry
end GraphQuery.Grammar
