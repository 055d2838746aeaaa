import GraphQuery.Text.CaseTables

/-! Full case mappings. One character may become several, and a capital sigma becomes
the final form at the end of a word. -/

set_option autoImplicit false

namespace GraphQuery.Text

def mapCase (expansions : List (Nat × List Nat)) (runs : List CaseRun) (c : Char) : List Char :=
  match expansions.lookup c.toNat with
  | some image => image.map Char.ofNat
  | none =>
    match runs.find? (·.covers c.toNat) with
    | some run => [Char.ofNat (run.apply c.toNat)]
    | none => [c]

def lowerChar (c : Char) : List Char :=
  if c.toNat < 0x80 then [c.toLower] else mapCase lowercaseExpansions lowercaseRuns c

def upperChar (c : Char) : List Char :=
  if c.toNat < 0x80 then [c.toUpper] else mapCase uppercaseExpansions uppercaseRuns c

def casedAhead (text : List Char) : Bool :=
  match text.dropWhile caseIgnorableRanges.contains with
  | [] => false
  | c :: _ => casedRanges.contains c

/-- Lowercases a text that follows `before`, whose nearest character comes first. A capital
sigma that ends a word is written in its final form. -/
def lowercaseAfter (before : List Char) : List Char → List Char
  | [] => []
  | c :: rest =>
    (if c = 'Σ' then [if casedAhead before && !casedAhead rest then 'ς' else 'σ']
      else lowerChar c) ++ lowercaseAfter (c :: before) rest

def lowercase (text : List Char) : List Char :=
  lowercaseAfter [] text

def uppercase (text : List Char) : List Char :=
  text.flatMap upperChar

/-- The first character in uppercase and each later one in lowercase on its own, so that a
sigma never takes its final form here. -/
def capitalize : List Char → List Char
  | [] => []
  | c :: rest => upperChar c ++ rest.flatMap lowerChar

def equalFold (first second : List Char) : Bool :=
  first.map lowerChar == second.map lowerChar

end GraphQuery.Text
