import GraphQuery.Text.Digits
import GraphQuery.Text.Whitespace

/-! Paths into trees of settings, written as in `server.bind` or `servers[0].bind`. -/

set_option autoImplicit false

namespace GraphQuery.Settings

inductive Step where
  | key (name : String)
  /-- A position in a list. Negative ones count from the end; `-1` is the last item. -/
  | index (position : Int)
  deriving DecidableEq, Repr

def isKeyChar (c : Char) : Bool :=
  c.isAlphanum || c == '_' || c == '-'

def position? (text : List Char) : Option Int :=
  match text with
  | '-' :: digits =>
    (Text.readNat? digits).bind fun n => if n ≤ Nat.pow 2 63 then some (-n) else none
  | digits =>
    (Text.readNat? digits).bind fun n => if n < Nat.pow 2 63 then some n else none

namespace Step

/-- The step that a subscript without its closing bracket stands for. -/
def ofSubscript? : List Char → Option Step
  | '[' :: text => (position? (Text.trimWhere Text.isBlank text)).map .index
  | _ => none

def ofSubscripts? (text : List Char) : Option (List Step) :=
  match (text.splitOn ']').reverse with
  | [] :: subscripts => subscripts.reverse.mapM ofSubscript?
  | _ => none

def ofPart? (part : List Char) : Option (List Step) :=
  match part.takeWhile isKeyChar with
  | [] => none
  | name =>
    (ofSubscripts? (part.dropWhile isKeyChar)).map fun subscripts =>
      .key (.ofList name) :: subscripts

/-- The path that a key stands for. A key that is not written as a path leads to itself only. -/
def pathOf (key : String) : List Step :=
  match (key.toList.splitOn '.').mapM ofPart? with
  | some steps => steps.flatten
  | none => [.key key]

end Step
end GraphQuery.Settings
