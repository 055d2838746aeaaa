/-! JSON values. Members of objects keep their order, also when a key is repeated. -/

set_option autoImplicit false

namespace GraphQuery

structure Json.Number where
  negative : Bool := false
  whole : Nat
  /-- The digits after the point; without a point there are none. -/
  fraction : List Char := []
  exponent : Option Int := none
  deriving DecidableEq, Repr

inductive Json where
  | null
  | bool (value : Bool)
  | number (value : Json.Number)
  | string (text : String)
  | array (items : List Json)
  | object (members : List (String × Json))
  deriving Repr, Inhabited

namespace Json

def nat (n : Nat) : Json :=
  .number { whole := n }

def strings (texts : List String) : Json :=
  .array (texts.map .string)

def Number.toNat? (number : Number) : Option Nat :=
  if !number.negative && number.fraction.isEmpty && number.exponent.isNone then some number.whole
  else none

def toNat? : Json → Option Nat
  | .number written => written.toNat?
  | _ => none

def toText? : Json → Option String
  | .string text => some text
  | _ => none

def toItems? : Json → Option (List Json)
  | .array items => some items
  | _ => none

/-- The member with this key, the last one if the key is repeated. -/
def member? (key : String) : Json → Option Json
  | .object members => members.reverse.lookup key
  | _ => none

end Json
end GraphQuery
