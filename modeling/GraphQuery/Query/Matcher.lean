import GraphQuery.Text.Quoted
import GraphQuery.Text.Reading

/-! Matchers: they read the start of a text or refuse it, and keep a log of what they looked
for. A matcher has no state. Whoever tries another one after it starts from the same text. -/

set_option autoImplicit false

namespace GraphQuery.Query

open Text

inductive Expectation where
  /-- A fixed word of the query language. -/
  | word (text : String)
  /-- The name of a type, or the key of a property. -/
  | name (text : String)
  | whitespace
  | value
  | endOfQuery
  deriving DecidableEq, Repr

def Expectation.describe : Expectation → String
  | .word text => s!"'{text}'"
  | .name text => quote text
  | .whitespace => "whitespace"
  | .value => "a value"
  | .endOfQuery => "end of query"

inductive Event where
  /-- A smallest piece of a query has been read and leaves `rest`. -/
  | accepted (rest : List Char)
  /-- At the start of `rest` nothing of this kind was found. -/
  | expected (rest : List Char) (what : Expectation)
  deriving DecidableEq, Repr

structure Outcome (α : Type) where
  result : Option (Reading α)
  log : List Event

def Matcher (α : Type) : Type :=
  List Char → Outcome α

namespace Matcher

variable {α β : Type}

def pure (value : α) : Matcher α :=
  fun text => ⟨some (value, text), []⟩

def bind (first : Matcher α) (next : α → Matcher β) : Matcher β :=
  fun text =>
    match first text with
    | ⟨none, log⟩ => ⟨none, log⟩
    | ⟨some (value, rest), log⟩ =>
      let after := next value rest
      ⟨after.result, log ++ after.log⟩

instance : Monad Matcher where
  pure := pure
  bind := bind

def reject : Matcher α :=
  fun _ => ⟨none, []⟩

/-- Accepts what `read?` reads as one piece, and otherwise expected one of `what`. -/
def piece (what : List Expectation) (read? : List Char → Option (Reading α)) : Matcher α :=
  fun text =>
    match read? text with
    | some (value, rest) => ⟨some (value, rest), [.accepted rest]⟩
    | none => ⟨none, what.map (.expected text)⟩

def optional (matcher : Matcher α) : Matcher (Option α) :=
  fun text =>
    match matcher text with
    | ⟨some (value, rest), log⟩ => ⟨some (some value, rest), log⟩
    | ⟨none, log⟩ => ⟨some (none, text), log⟩

def orElse (first second : Matcher α) : Matcher α :=
  fun text =>
    match first text with
    | ⟨some reading, log⟩ => ⟨some reading, log⟩
    | ⟨none, log⟩ =>
      let other := second text
      ⟨other.result, log ++ other.log⟩

def firstOf : List (Matcher α) → Matcher α
  | [] => reject
  | first :: rest => orElse first (firstOf rest)

/-- Tries all matchers and keeps the one that reads furthest, the earliest among equals. -/
def furthestOf (matchers : List (Matcher α)) : Matcher α :=
  fun text =>
    let outcomes := matchers.map (· text)
    ⟨longest (outcomes.map (·.result)), outcomes.flatMap (·.log)⟩

/-- Reads as often as possible. A matcher that reads nothing ends the repetition. -/
def many (matcher : Matcher α) : Matcher (List α) := fun text =>
  match matcher text with
  | ⟨none, log⟩ => ⟨some ([], text), log⟩
  | ⟨some (value, rest), log⟩ =>
    if rest.length < text.length then
      let more := many matcher rest
      ⟨more.result.map fun reading => (value :: reading.1, reading.2), log ++ more.log⟩
    else ⟨some ([], text), log⟩
termination_by text => text.length

/-- Whether a matcher would read something here. Nothing is read and nothing logged. -/
def accepts (matcher : Matcher α) (text : List Char) : Bool :=
  (matcher text).result.isSome

end Matcher
end GraphQuery.Query
