import GraphQuery.File
import GraphQuery.Registry.Basic
import GraphQuery.Schema.Document

/-! Registering the schemas of a directory. -/

set_option autoImplicit false

namespace GraphQuery

def Schema.load (file : Option FileContent) : Except Failure Schema := do
  match file with
  | none => throw (Failure.file "no such file")
  | some content => ofText (← content.text)

/-- Contents by name, in any order. -/
abbrev Directory := List (FileName × FileContent)

def Directory.put (directory : Directory) (name : String) (content : FileContent) : Directory :=
  directory.filter (·.1.data ≠ name.toUTF8.data) ++ [(name.toUTF8, content)]

namespace Registry

/-- The slug of the graph whose schema stands under this name. A name that is no text is passed over. -/
def slugOf? (name : FileName) : Option String := do
  fileStem? "json" (← String.fromUTF8? name)

def loadEntry? (registry : Registry) (entry : FileName × FileContent) : Option Registry := do
  let slug ← slugOf? entry.1
  let schema ← (Schema.load (some entry.2)).toOption
  let (_, registry) ← (registry.register slug schema).toOption
  pure registry

/-- Registers all schemas of a directory, if there is one, and counts them. Entries that hold
none are passed over. -/
def loadDirectory (registry : Registry) (directory : Option Directory) : Nat × Registry :=
  (directory.getD []).foldl
    (fun (count, registry) entry =>
      match registry.loadEntry? entry with
      | some registry => (count + 1, registry)
      | none => (count, registry))
    (0, registry)

end Registry
end GraphQuery
