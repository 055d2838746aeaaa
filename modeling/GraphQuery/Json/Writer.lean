import GraphQuery.Json.Basic

/-! JSON values as text, without any space between tokens. -/

set_option autoImplicit false

namespace GraphQuery.Json

def hexDigit (n : Nat) : Char :=
  Nat.digitChar n

/-- How a character is written inside a string. Only what JSON requires is escaped. -/
def escape (c : Char) : List Char :=
  match c with
  | '"' => ['\\', '"']
  | '\\' => ['\\', '\\']
  | '\x08' => ['\\', 'b']
  | '\x0c' => ['\\', 'f']
  | '\n' => ['\\', 'n']
  | '\r' => ['\\', 'r']
  | '\t' => ['\\', 't']
  | c =>
    if c.toNat < 0x20 then
      ['\\', 'u', '0', '0', hexDigit (c.toNat / 16), hexDigit (c.toNat % 16)]
    else [c]

def writeText (text : String) : List Char :=
  '"' :: text.toList.flatMap escape ++ ['"']

def writeInt (n : Int) : List Char :=
  if n < 0 then '-' :: Nat.toDigits 10 n.natAbs else Nat.toDigits 10 n.natAbs

def Number.write (number : Number) : List Char :=
  (if number.negative then ['-'] else []) ++ Nat.toDigits 10 number.whole
    ++ (if number.fraction.isEmpty then [] else '.' :: number.fraction)
    ++ (match number.exponent with
        | some exponent => 'e' :: writeInt exponent
        | none => [])

mutual

def write : Json → List Char
  | .null => "null".toList
  | .bool true => "true".toList
  | .bool false => "false".toList
  | .number written => written.write
  | .string text => writeText text
  | .array items => '[' :: writeItems items ++ [']']
  | .object members => '\x7b' :: writeMembers members ++ ['\x7d']

def writeItems : List Json → List Char
  | [] => []
  | [last] => write last
  | item :: rest => write item ++ ',' :: writeItems rest

def writeMembers : List (String × Json) → List Char
  | [] => []
  | [(key, value)] => writeText key ++ ':' :: write value
  | (key, value) :: rest => writeText key ++ ':' :: (write value ++ ',' :: writeMembers rest)

end

def render (value : Json) : String :=
  .ofList (write value)

end GraphQuery.Json
