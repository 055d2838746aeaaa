import GraphQuery.Text.Ranges

/-! The whitespace characters of Unicode, and texts with their whitespace collapsed. -/

set_option autoImplicit false

namespace GraphQuery.Text

/-- The property White_Space. -/
def whitespaceRanges : Ranges :=
  [(0x9, 0xD), (0x20, 0x20), (0x85, 0x85), (0xA0, 0xA0), (0x1680, 0x1680), (0x2000, 0x200A),
   (0x2028, 0x2029), (0x202F, 0x202F), (0x205F, 0x205F), (0x3000, 0x3000)]

def isWhitespace (c : Char) : Bool :=
  whitespaceRanges.contains c

def isBlank (c : Char) : Bool :=
  c == ' ' || c == '\t'

def trimWhere (test : Char → Bool) (text : List Char) : List Char :=
  ((text.dropWhile test).reverse.dropWhile test).reverse

def trim (text : List Char) : List Char :=
  trimWhere isWhitespace text

/-- Writes one space for each run of whitespace. -/
def squeeze : List Char → List Char
  | [] => []
  | c :: rest =>
    if isWhitespace c then
      match rest with
      | [] => [' ']
      | d :: _ => if isWhitespace d then squeeze rest else ' ' :: squeeze rest
    else c :: squeeze rest

def collapse (text : List Char) : List Char :=
  squeeze (trim text)

end GraphQuery.Text
