import GraphQuery.Failure
import GraphQuery.File
import GraphQuery.Parser
import GraphQuery.Settings.Node

/-! The settings of a service: built-in values, a file over them, and environment variables over
both. -/

set_option autoImplicit false

namespace GraphQuery

structure Settings where
  /-- The address to listen at. -/
  bind : String
  /-- The longest query accepted, in characters. -/
  maxLength : Nat
  /-- Where the schemas are. -/
  directory : String
  /-- What to log. -/
  filter : String
  deriving DecidableEq, Repr

namespace Settings

/-! Layers. -/

/-- Lays values over a tree one after the other, each where its key leads. -/
def overlayAll (below : Node) (values : List (String × Node)) : Node :=
  values.foldl (fun below entry => below.overlayAt (Step.pathOf entry.1) entry.2) below

def defaults : List (String × Node) :=
  [("server.bind", .text "127.0.0.1:8080"),
   ("query.max_length", .integer Parser.defaultMaxLength),
   ("schemas.directory", .text "schemas"),
   ("log.filter", .text "info")]

def ofText? (text : String) : Option (List (String × Node)) :=
  match Json.ofText? text with
  | .ok (.object members) => some (Node.entriesOfMembers [] members)
  | _ => none

def variableStart : List Char := "sylva__".toList

/-- Writes a point for each pair of underscores. -/
def dotted : List Char → List Char
  | [] => []
  | '_' :: '_' :: rest => '.' :: dotted rest
  | c :: rest => c :: dotted rest

/-- The key that an environment variable sets. Letter case makes no difference. -/
def variableKey? (name : String) : Option String :=
  (variableStart.isPrefixOf? (Text.lowercase name.toList)).map fun rest => .ofList (dotted rest)

def ofEnvironment (environment : List (String × String)) : List (String × Node) :=
  environment.filterMap fun (name, value) => (variableKey? name).map fun key => (key, .text value)

/-! Loading. -/

inductive File where
  | none
  | missing
  | found (name : String) (content : FileContent)

/-- The values of a file, which has to be there and to say by its name that it holds JSON. -/
def File.values? : File → Option (List (String × Node))
  | .none => some []
  | .missing => Option.none
  | .found name content =>
    match fileStem? "json" name, content.anyText? with
    | some _, some text => ofText? text
    | _, _ => Option.none

/-- The value of the only key of a section. A section may also be a list that begins with it. -/
def Node.only? (key : String) : Node → Option Node
  | .table entries => entries.lookup key
  | .list (value :: _) => some value
  | _ => none

def value? (root : Node) (name key : String) : Option Node := do
  (← root.entries.lookup name).only? key

def ofNode? (root : Node) : Option Settings := do
  let bind ← (← value? root "server" "bind").toText?
  let maxLength ← (← value? root "query" "max_length").toNat?
  let directory ← (← value? root "schemas" "directory").toText?
  let filter ← (← value? root "log" "filter").toText?
  pure { bind, maxLength, directory, filter }

/-- What is given is put together before it is laid over the built-in values. -/
def load? (file : File) (environment : List (String × String)) : Option Settings := do
  let given := overlayAll (.table []) ((← file.values?) ++ ofEnvironment environment)
  ofNode? ((overlayAll (.table []) defaults).overlay given)

def load (file : File) (environment : List (String × String)) : Except Failure Settings :=
  match load? file environment with
  | some settings => .ok settings
  | none => .error (.settings "unusable settings")

end Settings
end GraphQuery
