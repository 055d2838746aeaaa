/-! Readings of a text: what a prefix of it means, with the text after that prefix. -/

set_option autoImplicit false

namespace GraphQuery.Text

abbrev Reading (α : Type) := α × List Char

variable {α : Type}

def further : Option (Reading α) → Option (Reading α) → Option (Reading α)
  | none, second => second
  | first, none => first
  | some first, some second =>
    if second.2.length < first.2.length then some second else some first

/-- The reading that leaves the least text, the earliest of those that leave equally little. -/
def longest (readings : List (Option (Reading α))) : Option (Reading α) :=
  readings.foldl further none

end GraphQuery.Text
