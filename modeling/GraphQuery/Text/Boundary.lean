import GraphQuery.Text.Alphanumeric

/-! Where words end. -/

set_option autoImplicit false

namespace GraphQuery.Text

def isWordChar (c : Char) : Bool :=
  isAlphanumeric c || c == '_'

/-- Whether no word runs from the end of `before` into the start of `after`. -/
def wordEnds (before after : List Char) : Bool :=
  match before.getLast?, after.head? with
  | some last, some next => !(isWordChar last && isWordChar next)
  | _, _ => true

end GraphQuery.Text
