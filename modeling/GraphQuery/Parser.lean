import GraphQuery.Grammar.Assembly
import GraphQuery.Plan.Reduction
import GraphQuery.Query.Furthest
import GraphQuery.Query.Productions

/-! Parsers: a grammar with a limit on the length of queries. -/

set_option autoImplicit false

namespace GraphQuery

open Query

structure Parser where
  grammar : Grammar
  /-- The longest query accepted, in characters. -/
  maxLength : Nat
  deriving DecidableEq, Repr

namespace Parser

def defaultMaxLength : Nat := 1024

def ofSchema (schema : Schema) (maxLength : Nat) : Except Failure Parser := do
  let grammar ← Grammar.ofSchema schema
  pure ⟨grammar, maxLength⟩

/-- The plan of a normalized query, with the labels that are left. A query without characters has the
empty plan. -/
def parseNormalized (parser : Parser) (labels : Labels) (query : Normalized) :
    Except Failure Plan × Labels :=
  if query.text = [] then (.ok ∅, labels)
  else
    let outcome := tree parser.grammar query.text
    match outcome.result with
    | none => (.error ((Furthest.ofLog query.text outcome.log).failure query), labels)
    | some (tree, _) =>
      match Plan.ofTree parser.grammar tree labels with
      | .ok (plan, labels) => (.ok plan, labels)
      | .error (fault, labels) => (.error (.grammar fault.message), labels)

def parseFrom (parser : Parser) (labels : Labels) (query : String) : Except Failure Plan × Labels :=
  let typed := query.toList
  if parser.maxLength < typed.length then (.error (.tooLong typed.length parser.maxLength), labels)
  else parser.parseNormalized labels (.ofQuery typed)

def parse (parser : Parser) (query : String) : Except Failure Plan :=
  (parser.parseFrom .fresh query).1

end Parser
end GraphQuery
