import GraphQuery.Text.Digits

/-! Paths of requests. -/

set_option autoImplicit false

namespace GraphQuery.Http

def isSchemeChar (c : Char) : Bool :=
  c.isAlphanum || c == '+' || c == '-' || c == '.' || c == '~'

def startsQuery (c : Char) : Bool :=
  c == '?' || c == '#'

/-- A target without a scheme and the name of a site, where it begins with them. -/
def withoutSite (target : List Char) : List Char :=
  match target.dropWhile isSchemeChar with
  | ':' :: '/' :: '/' :: rest => rest.dropWhile fun c => c != '/' && !startsQuery c
  | _ => target

def pathOf (target : String) : List Char :=
  (withoutSite target.toList).takeWhile (!startsQuery ·)

/-- The bytes of a text in which two hexadecimal digits behind a percent sign stand for one
byte. A percent sign without digits stands for itself. -/
def percentDecode : List Char → List UInt8
  | [] => []
  | '%' :: a :: b :: rest =>
    match Text.hexDigitValue? a, Text.hexDigitValue? b with
    | some high, some low => UInt8.ofNat (high * 16 + low) :: percentDecode rest
    | _, _ => '%'.toUInt8 :: percentDecode (a :: b :: rest)
  | c :: rest => (String.singleton c).toUTF8.toList ++ percentDecode rest

def decodeSegment? (segment : List Char) : Option String :=
  String.fromUTF8? (percentDecode segment).toByteArray

end GraphQuery.Http
