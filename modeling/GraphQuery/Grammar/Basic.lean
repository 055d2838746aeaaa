import GraphQuery.Grammar.Entry
import GraphQuery.Schema.Validation

/-! Grammars: the entries of all types of a schema. -/

set_option autoImplicit false

namespace GraphQuery

structure Grammar where
  nodeEntries : List Grammar.TypeEntry
  relationshipEntries : List Grammar.TypeEntry
  deriving DecidableEq, Repr

namespace Grammar

/-- Why a list of entries makes no grammar, or a tree has no plan under one. -/
inductive Fault where
  | formless (tag : String)
  | repeated (tag : String)
  | missing (kind : Kind) (id : TypeId)
  deriving DecidableEq, Repr

def Fault.message : Fault → String
  | .formless tag => s!"rule {tag} accepts no surface text"
  | .repeated tag => s!"rule {tag} is generated twice"
  | .missing kind id => s!"no rule for {kind.name} type {id}"

/-- Checks that each entry can be read and found by its id; `seen` holds the ids before it. -/
def checkEntries (seen : List TypeId) : List TypeEntry → Except Fault Unit
  | [] => pure ()
  | entry :: rest => do
    if entry.forms = [] then throw (.formless entry.tag)
    if entry.id ∈ seen then throw (.repeated entry.tag)
    checkEntries (entry.id :: seen) rest

def entries (grammar : Grammar) : Kind → List TypeEntry
  | .node => grammar.nodeEntries
  | .relationship => grammar.relationshipEntries

def entry? (grammar : Grammar) (kind : Kind) (id : TypeId) : Option TypeEntry :=
  (grammar.entries kind).find? (·.id == id)

def ofTypes (schema : Schema) : Grammar where
  nodeEntries := schema.nodeTypes.map (.ofType .node)
  relationshipEntries :=
    schema.relationshipTypes.map fun type => .ofType .relationship type.toNodeType

structure Ambiguity where
  kind : Kind
  form : List Char
  typeIds : List TypeId
  deriving DecidableEq, Repr

def Ambiguity.note (report : Ambiguity) (id : TypeId) : Ambiguity :=
  if id ∈ report.typeIds then report else { report with typeIds := report.typeIds ++ [id] }

/-- Notes that a type has the form, which gets a report of its own the first time that it is seen. -/
def noteForm (kind : Kind) (id : TypeId) (form : List Char) : List Ambiguity → List Ambiguity
  | [] => [⟨kind, form, [id]⟩]
  | report :: rest =>
    if report.form = form then report.note id :: rest else report :: noteForm kind id form rest

def noteEntry (kind : Kind) (reports : List Ambiguity) (entry : TypeEntry) : List Ambiguity :=
  entry.forms.foldl (fun reports form => noteForm kind entry.id form reports) reports

/-- The forms that several types have. Forms of a single type are noted too, and left out in the end. -/
def ambiguitiesOf (grammar : Grammar) (kind : Kind) : List Ambiguity :=
  ((grammar.entries kind).foldl (noteEntry kind) []).filter (1 < ·.typeIds.length)

def ambiguities (grammar : Grammar) : List Ambiguity :=
  grammar.ambiguitiesOf .node ++ grammar.ambiguitiesOf .relationship

end Grammar
end GraphQuery
