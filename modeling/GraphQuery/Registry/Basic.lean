import GraphQuery.Parser
import GraphQuery.Grammar.Description
import Std.Data.ExtTreeMap

/-! Registries: one parser for each graph, under the slug of the graph. -/

set_option autoImplicit false

namespace GraphQuery

structure Registry where
  parsers : Std.ExtTreeMap String Parser
  /-- The limit on the length of queries that every parser is given. -/
  maxLength : Nat

namespace Registry

def empty (maxLength : Nat) : Registry where
  parsers := ∅
  maxLength := maxLength

/-- Makes the parser of a schema the current one of a graph. A schema that has none changes
nothing. -/
def register (registry : Registry) (slug : String) (schema : Schema) :
    Except Failure (Parser × Registry) := do
  let parser ← Parser.ofSchema schema registry.maxLength
  pure (parser, { registry with parsers := registry.parsers.insert slug parser })

def remove (registry : Registry) (slug : String) : Bool × Registry :=
  (registry.parsers.contains slug, { registry with parsers := registry.parsers.erase slug })

def parser (registry : Registry) (slug : String) : Except Failure Parser :=
  match registry.parsers[slug]? with
  | some parser => .ok parser
  | none => .error (.unknownGraph slug)

def parse (registry : Registry) (slug query : String) : Except Failure Plan := do
  (← registry.parser slug).parse query

def describe (registry : Registry) (slug : String) : Except Failure String := do
  pure (← registry.parser slug).grammar.describe

def slugs (registry : Registry) : List String :=
  registry.parsers.keys

end Registry
end GraphQuery
