import GraphQuery.Text.Unprintable

/-! Texts between double quotes, with escapes for what would not show as itself. -/

set_option autoImplicit false

namespace GraphQuery.Text

def lowerHexDigits (n : Nat) : List Char :=
  Nat.toDigits 16 n

/-- How one character is written inside a quoted text. A single quote needs no escape. -/
def escape (c : Char) : List Char :=
  match c with
  | '\x00' => ['\\', '0']
  | '\t' => ['\\', 't']
  | '\n' => ['\\', 'n']
  | '\r' => ['\\', 'r']
  | '"' => ['\\', '"']
  | '\\' => ['\\', '\\']
  | c =>
    if isUnprintable c then '\\' :: 'u' :: '{' :: lowerHexDigits c.toNat ++ ['}'] else [c]

def quoted (text : List Char) : List Char :=
  '"' :: text.flatMap escape ++ ['"']

def quote (text : String) : String :=
  .ofList (quoted text.toList)

end GraphQuery.Text
