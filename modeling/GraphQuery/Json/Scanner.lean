import GraphQuery.Json.Number

/-! Reading the tokens of JSON text. A reader takes what it needs from the start of a text and
leaves the rest. It stops at the first fault that it meets. -/

set_option autoImplicit false

namespace GraphQuery.Json

inductive Fault where
  /-- The text is not JSON. -/
  | malformed
  /-- The text is JSON so far, but of another shape than the one asked for. -/
  | wrongShape
  deriving DecidableEq, Repr

abbrev Reader := StateT (List Char) (Except Fault)

def isSpace (c : Char) : Bool :=
  c == ' ' || c == '\n' || c == '\r' || c == '\t'

def skipSpace (text : List Char) : List Char :=
  text.dropWhile isSpace

def readExact (expected : List Char) : Reader Unit := fun text =>
  match expected.isPrefixOf? text with
  | some rest => .ok ((), rest)
  | none => .error .malformed

def readMark (mark : Char) : Reader Unit := fun text =>
  match skipSpace text with
  | [] => .error .malformed
  | c :: rest => if c = mark then .ok ((), rest) else .error .malformed

/-! Strings. -/

def readHex4 : Reader Nat
  | a :: b :: c :: d :: rest =>
    match Text.hexDigitValue? a, Text.hexDigitValue? b, Text.hexDigitValue? c,
        Text.hexDigitValue? d with
    | some a, some b, some c, some d => .ok (((a * 16 + b) * 16 + c) * 16 + d, rest)
    | _, _, _, _ => .error .malformed
  | _ => .error .malformed

def isHighSurrogate (unit : Nat) : Bool :=
  0xD800 ≤ unit && unit ≤ 0xDBFF

def isLowSurrogate (unit : Nat) : Bool :=
  0xDC00 ≤ unit && unit ≤ 0xDFFF

/-- The character after `\u`. Characters beyond the basic plane take two escapes. -/
def readUnicodeEscape : Reader Char := do
  let unit ← readHex4
  if isHighSurrogate unit then
    readExact ['\\', 'u']
    let low ← readHex4
    if isLowSurrogate low then
      pure (Char.ofNat (0x10000 + (unit - 0xD800) * 0x400 + (low - 0xDC00)))
    else throw .malformed
  else if isLowSurrogate unit then throw .malformed
  else pure (Char.ofNat unit)

def shortEscape? (c : Char) : Option Char :=
  match c with
  | '"' => some '"'
  | '\\' => some '\\'
  | '/' => some '/'
  | 'b' => some '\x08'
  | 'f' => some '\x0c'
  | 'n' => some '\n'
  | 'r' => some '\r'
  | 't' => some '\t'
  | _ => none

def readStringChar : Reader Char
  | [] => .error .malformed
  | '\\' :: 'u' :: rest => readUnicodeEscape rest
  | '\\' :: c :: rest =>
    match shortEscape? c with
    | some escaped => .ok (escaped, rest)
    | none => .error .malformed
  | c :: rest => if c.toNat < 0x20 || c = '\\' then .error .malformed else .ok (c, rest)

/-- Like `readStringChar`, for text that nobody looks at: surrogates may stand alone. -/
def skipStringChar : Reader Unit
  | '\\' :: 'u' :: rest => (fun read => ((), read.2)) <$> readHex4 rest
  | text => (fun read => ((), read.2)) <$> readStringChar text

def readCharacters {α : Type} (char : Reader α) (count : Nat) (text : List Char) :
    Except Fault (List α × List Char) :=
  match count, text with
  | _, '"' :: rest => .ok ([], rest)
  | 0, _ => throw .malformed
  | count + 1, text => do
    let (c, rest) ← char text
    let (more, rest) ← readCharacters char count rest
    pure (c :: more, rest)

def readUntilQuote {α : Type} (char : Reader α) (text : List Char) :
    Except Fault (List α × List Char) :=
  readCharacters char text.length text

def readStringBody : Reader String := fun text => do
  let (chars, rest) ← readUntilQuote readStringChar text
  pure (.ofList chars, rest)

/-! Numbers. -/

def readDigits : Reader (List Char) := fun text =>
  match text.takeWhile Char.isDigit with
  | [] => .error .malformed
  | digits => .ok (digits, text.dropWhile Char.isDigit)

def readWhole : Reader Nat := do
  match ← readDigits with
  | '0' :: _ :: _ => throw .malformed
  | digits => pure (Text.digitsValue digits)

def readFraction : Reader (List Char)
  | '.' :: rest => readDigits rest
  | text => .ok ([], text)

def readSignedDigits : Reader Int
  | '+' :: rest => (fun read => (Text.digitsValue read.1, read.2)) <$> readDigits rest
  | '-' :: rest => (fun read => (-Text.digitsValue read.1, read.2)) <$> readDigits rest
  | text => (fun read => (Text.digitsValue read.1, read.2)) <$> readDigits text

def readExponent : Reader (Option Int)
  | c :: rest =>
    if c = 'e' || c = 'E' then (fun read => (some read.1, read.2)) <$> readSignedDigits rest
    else .ok (none, c :: rest)
  | [] => .ok (none, [])

def readNumberText : Reader Number := do
  let negative ← modifyGet fun
    | '-' :: rest => (true, rest)
    | text => (false, text)
  let whole ← readWhole
  let fraction ← readFraction
  let exponent ← readExponent
  pure { negative, whole, fraction, exponent }

/-- Numbers too large for a double are refused. -/
def readNumber : Reader Number := do
  let number ← readNumberText
  if number.toDouble?.isNone then throw .malformed
  pure number

def startsNumber (c : Char) : Bool :=
  c == '-' || c.isDigit

end GraphQuery.Json
