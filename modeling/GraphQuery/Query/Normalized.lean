import GraphQuery.Text.Whitespace

/-! Queries with whitespace runs collapsed outside quoted literals, each character with its
place in the query as typed.

A quote opens a literal at the start of a word, and only if it is closed later on. So the
apostrophe in `O'Brien` is plain text. -/

set_option autoImplicit false

namespace GraphQuery.Query

open Text

/-- A character and the number of characters before it in the query as typed. -/
structure Placed where
  char : Char
  column : Nat
  deriving DecidableEq, Repr

structure Normalized where
  placed : List Placed
  deriving DecidableEq, Repr

namespace Normalized

inductive Reader where
  /-- Nothing but whitespace. -/
  | start
  /-- The last character belongs to a word. -/
  | word
  /-- The last character belongs to a run of whitespace that begins at `column`. -/
  | gap (column : Nat)
  /-- The literal that `quote` opened is still open. -/
  | literal (quote : Char)
  deriving DecidableEq, Repr

def isQuote (c : Char) : Bool :=
  c == '"' || c == '\''

def Reader.afterFirst (c : Char) (rest : List Char) : Reader :=
  if isQuote c && rest.contains c then .literal c else .word

/-- Keeps the characters of a text that stands at `column`. -/
def keep : Reader → Nat → List Char → List Placed
  | _, _, [] => []
  | .literal quote, column, c :: rest =>
    ⟨c, column⟩ :: keep (if c = quote then .word else .literal quote) (column + 1) rest
  | .start, column, c :: rest =>
    if isWhitespace c then keep .start (column + 1) rest
    else ⟨c, column⟩ :: keep (.afterFirst c rest) (column + 1) rest
  | .word, column, c :: rest =>
    if isWhitespace c then keep (.gap column) (column + 1) rest
    else ⟨c, column⟩ :: keep .word (column + 1) rest
  | .gap start, column, c :: rest =>
    if isWhitespace c then keep (.gap start) (column + 1) rest
    else ⟨' ', start⟩ :: ⟨c, column⟩ :: keep (.afterFirst c rest) (column + 1) rest

def ofQuery (query : List Char) : Normalized where
  placed := keep .start 0 query

def text (query : Normalized) : List Char :=
  query.placed.map (·.char)

def endColumn (query : Normalized) : Nat :=
  match query.placed.getLast? with
  | some last => last.column + 1
  | none => 0

/-- The column, counted from one, of the character at `index` of the text. -/
def column (query : Normalized) (index : Nat) : Nat :=
  match query.placed[index]? with
  | some placed => placed.column + 1
  | none => query.endColumn + 1

end Normalized
end GraphQuery.Query
