import GraphQuery.Text.Boundary
import GraphQuery.Text.Case
import GraphQuery.Text.Reading

/-! The forms under which a name is recognized in a query. -/

set_option autoImplicit false

namespace GraphQuery.Grammar

open Text

def spellings (word : List Char) : List (List Char) :=
  [word, lowercase word, uppercase word, capitalize word]

def insertForm (form : List Char) : List (List Char) → List (List Char)
  | [] => [form]
  | other :: rest =>
    if other.length ≤ form.length then form :: other :: rest else other :: insertForm form rest

/-- Sorts forms by length, the longest first. Equally long ones keep their order. -/
def longestFirst (forms : List (List Char)) : List (List Char) :=
  forms.foldr insertForm []

/-- All spellings of a singular and its plural without repetition. Longer forms come first, so
that a form never hides one that continues it. -/
def forms (singular plural : List Char) : List (List Char) :=
  longestFirst (spellings singular ++ spellings plural).eraseDups

/-- Reads the first of the forms with which the text starts and which no word overruns. -/
def readForm? (forms : List (List Char)) (text : List Char) : Option (Reading (List Char)) :=
  forms.findSome? fun form =>
    (form.isPrefixOf? text).bind fun rest =>
      if wordEnds form rest then some (form, rest) else none

end GraphQuery.Grammar
