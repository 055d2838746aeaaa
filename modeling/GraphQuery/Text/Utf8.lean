/-! Texts from bytes in UTF-8, whatever the bytes are. The replacement character stands for each
longest start of a character that does not go on as it must, and for each byte that starts none. -/

set_option autoImplicit false

namespace GraphQuery.Text

def replacementChar : Char := '\uFFFD'

/-- A character whose last bytes have not been read yet. -/
structure UnfinishedChar where
  /-- The part of its code that the bytes so far have given. -/
  code : Nat
  /-- The least byte that may come next. -/
  least : UInt8
  /-- The greatest byte that may come next. -/
  greatest : UInt8
  /-- How many bytes come after the next one. -/
  later : Nat
  deriving DecidableEq, Repr

namespace UnfinishedChar

/-- The character of several bytes that a byte starts. The bounds of the second byte leave out
codes that fewer bytes can give, surrogates, and codes beyond the last character. -/
def ofFirst? (byte : UInt8) : Option UnfinishedChar :=
  if byte < 0xC2 then none
  else if byte < 0xE0 then
    some { code := (byte &&& 0x1F).toNat, least := 0x80, greatest := 0xBF, later := 0 }
  else if byte < 0xF0 then
    some {
      code := (byte &&& 0x0F).toNat
      least := if byte = 0xE0 then 0xA0 else 0x80
      greatest := if byte = 0xED then 0x9F else 0xBF
      later := 1 }
  else if byte < 0xF5 then
    some {
      code := (byte &&& 0x07).toNat
      least := if byte = 0xF0 then 0x90 else 0x80
      greatest := if byte = 0xF4 then 0x8F else 0xBF
      later := 2 }
  else none

def takes (char : UnfinishedChar) (byte : UInt8) : Bool :=
  char.least ≤ byte && byte ≤ char.greatest

def codeWith (char : UnfinishedChar) (byte : UInt8) : Nat :=
  char.code * 64 + (byte &&& 0x3F).toNat

end UnfinishedChar

abbrev Utf8Progress := List Char × Option UnfinishedChar

def readFirstByte (byte : UInt8) : Utf8Progress :=
  if byte < 0x80 then ([Char.ofNat byte.toNat], none)
  else
    match UnfinishedChar.ofFirst? byte with
    | some char => ([], some char)
    | none => ([replacementChar], none)

def readByte (unfinished : Option UnfinishedChar) (byte : UInt8) : Utf8Progress :=
  match unfinished with
  | none => readFirstByte byte
  | some char =>
    if char.takes byte then
      match char.later with
      | 0 => ([Char.ofNat (char.codeWith byte)], none)
      | later + 1 =>
        ([], some { code := char.codeWith byte, least := 0x80, greatest := 0xBF, later })
    else
      let (chars, unfinished) := readFirstByte byte
      (replacementChar :: chars, unfinished)

def readBytes (unfinished : Option UnfinishedChar) : List UInt8 → List Char
  | [] => if unfinished.isSome then [replacementChar] else []
  | byte :: rest =>
    let (chars, unfinished) := readByte unfinished byte
    chars ++ readBytes unfinished rest

/-- The text that bytes are read as. -/
def ofBytes (bytes : List UInt8) : List Char :=
  readBytes none bytes

end GraphQuery.Text
