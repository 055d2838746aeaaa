import GraphQuery.Decimal.Shortest
import GraphQuery.Json.Reader
import GraphQuery.Settings.Path
import GraphQuery.Text.Case

/-! Trees of settings that are laid over one another, and the values read from them. -/

set_option autoImplicit false

namespace GraphQuery.Settings

inductive Node where
  | nothing
  | flag (value : Bool)
  | integer (value : Int)
  | decimal (negative : Bool) (value : Double)
  | text (value : String)
  | list (items : List Node)
  | table (entries : List (String × Node))

namespace Node

def entries : Node → List (String × Node)
  | .table entries => entries
  | _ => []

def items : Node → List Node
  | .list items => items
  | _ => []

def put (key : String) (value : Node) : List (String × Node) → List (String × Node)
  | [] => [(key, value)]
  | entry :: rest =>
    if entry.1 = key then (key, value) :: rest else entry :: put key value rest

def find (key : String) (entries : List (String × Node)) : Node :=
  (entries.lookup key).getD .nothing

mutual

/-- Lays a tree over another one. Tables are laid over each other entry by entry, and anything
else takes the place of what it covers. -/
def overlay (below : Node) : Node → Node
  | .table entries => .table (overlayEntries below.entries entries)
  | value => value

def overlayEntries (below : List (String × Node)) :
    List (String × Node) → List (String × Node)
  | [] => below
  | (key, value) :: rest => overlayEntries (put key ((find key below).overlay value) below) rest

end

/-- Adds items without a value where a list has to grow to have a position: behind the others, or
before them for a position that counts from the end. Also says where the position is then. -/
def place (items : List Node) : Int → List Node × Nat
  | .ofNat n => (items ++ List.replicate (n + 1 - items.length) .nothing, n)
  | .negSucc n =>
    (List.replicate (n + 1 - items.length) .nothing ++ items, items.length - (n + 1))

def overlayAt (below : Node) (path : List Step) (value : Node) : Node :=
  match path with
  | [] => below.overlay value
  | .key name :: rest =>
    .table (put name ((find name below.entries).overlayAt rest value) below.entries)
  | .index position :: rest =>
    let (items, n) := place below.items position
    .list (items.modify n fun item => item.overlayAt rest value)

/-! From JSON. -/

def ofNumber (number : Json.Number) : Node :=
  match number.toInteger?, number.toDouble? with
  | some n, _ => .integer n
  | none, some value => .decimal number.negative value
  | none, none => .nothing

mutual

/-- Of a repeated key the last value counts. -/
def ofJson : Json → Node
  | .null => .nothing
  | .bool value => .flag value
  | .number written => ofNumber written
  | .string content => .text content
  | .array items => .list (itemsOfJson items)
  | .object members => .table (entriesOfMembers [] members)

def itemsOfJson : List Json → List Node
  | [] => []
  | item :: rest => ofJson item :: itemsOfJson rest

def entriesOfMembers (before : List (String × Node)) :
    List (String × Json) → List (String × Node)
  | [] => before
  | (key, value) :: rest => entriesOfMembers (put key (ofJson value) before) rest

end

/-! Values. -/

/-- Flags and numbers are taken for the text that they are written as. -/
def toText? : Node → Option String
  | .text value => some value
  | .flag value => some (if value then "true" else "false")
  | .integer value => some (toString value)
  | .decimal negative value => some (.ofList ((if negative then ['-'] else []) ++ value.text))
  | _ => none

def readUnsigned? : List Char → Option Nat
  | '+' :: digits => Text.readNat? digits
  | digits => Text.readNat? digits

def within64? (n : Nat) : Option Nat :=
  if n < UInt64.size then some n else none

def ofWord? (text : String) : Option Nat :=
  let word := String.ofList (Text.lowercase text.toList)
  if word ∈ ["true", "on", "yes"] then some 1
  else if word ∈ ["false", "off", "no"] then some 0
  else (readUnsigned? text.toList).bind within64?

/-- A natural number of 64 bits. Flags and the words for them are taken for one and zero, and
decimals for the nearest number. -/
def toNat? : Node → Option Nat
  | .text value => ofWord? value
  | .flag value => some value.toNat
  | .integer value => if value < 0 then none else within64? value.toNat
  | .decimal negative value => some (if negative then 0 else min value.round (UInt64.size - 1))
  | _ => none

end Node
end GraphQuery.Settings
