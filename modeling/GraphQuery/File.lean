import GraphQuery.Failure
import GraphQuery.Text.Utf8

/-! Files: what stands under a name, the texts in it, and the extension of the name. A name is any bytes, and
only one that is a text has an extension. -/

set_option autoImplicit false

namespace GraphQuery

abbrev FileName := ByteArray

inductive FileContent where
  | file (bytes : ByteArray)
  | directory

namespace FileContent

def text (content : FileContent) : Except Failure String :=
  match content with
  | .directory => .error (Failure.file "is a directory")
  | .file bytes =>
    match String.fromUTF8? bytes with
    | some text => .ok text
    | none => .error (Failure.file "stream did not contain valid UTF-8")

def byteOrderMark : Char := '\uFEFF'

/-- The text of a file whatever its bytes are. A byte order mark at the start is no part of it. -/
def anyText? : FileContent → Option String
  | .directory => none
  | .file bytes =>
    match Text.ofBytes bytes.toList with
    | [] => some ""
    | first :: rest => some (.ofList (if first = byteOrderMark then rest else first :: rest))

end FileContent

/-- A name without its extension, if it has the given one. A point at the start of a name begins
no extension. -/
def fileStem? (extension name : String) : Option String :=
  match ('.' :: extension.toList).isSuffixOf? name.toList with
  | none | some [] => none
  | some stem => some (.ofList stem)

end GraphQuery
