import GraphQuery.Failure
import GraphQuery.Query.Matcher
import GraphQuery.Query.Normalized

/-! The furthest place at which a matcher looked for something, and what it looked for there.
A query that does not match fails at that place. -/

set_option autoImplicit false

namespace GraphQuery.Query

structure Furthest where
  /-- The text from the furthest place on. -/
  rest : List Char
  /-- What was expected there, each once, in the order in which it was first looked for. -/
  expected : List Expectation
  deriving DecidableEq, Repr

namespace Furthest

def note (furthest : Furthest) : Event → Furthest
  | .accepted _ => furthest
  | .expected rest what =>
    if rest.length < furthest.rest.length then ⟨rest, [what]⟩
    else if rest.length = furthest.rest.length && !furthest.expected.contains what then
      { furthest with expected := furthest.expected ++ [what] }
    else furthest

def ofLog (text : List Char) (log : List Event) : Furthest :=
  log.foldl note ⟨text, []⟩

def snippetLength : Nat := 24

def found (furthest : Furthest) : String :=
  if furthest.rest = [] then "end of query"
  else "'" ++ .ofList (furthest.rest.take snippetLength) ++ "'"

def message (furthest : Furthest) : String :=
  let unexpected := "unexpected " ++ furthest.found
  if furthest.expected = [] then unexpected
  else
    let expected := ", ".intercalate (furthest.expected.map (·.describe))
    unexpected ++ ", expected one of: " ++ expected

def failure (furthest : Furthest) (query : Normalized) : Failure :=
  .mismatch furthest.message
    (query.column (query.text.length - furthest.rest.length))
    (furthest.expected.map (·.describe))

end Furthest
end GraphQuery.Query
