/-! What can go wrong between a schema or a query and its plan. -/

set_option autoImplicit false

namespace GraphQuery

inductive Failure where
  | settings (text : String)
  | file (text : String)
  | document (text : String)
  | inconsistentSchema (text : String)
  | grammar (text : String)
  /-- The query does not match. `column` counts from one in the query as typed. -/
  | mismatch (text : String) (column : Nat) (expected : List String)
  | tooLong (length limit : Nat)
  | unknownGraph (slug : String)
  | lock (text : String)
  deriving DecidableEq, Repr

namespace Failure

def message : Failure → String
  | .settings text => s!"Config error: {text}"
  | .file text => s!"I/O error: {text}"
  | .document text => s!"JSON error: {text}"
  | .inconsistentSchema text => s!"Schema inconsistency: {text}"
  | .grammar text => s!"Grammar compilation failed: {text}"
  | .mismatch text column _ => s!"Parse error at column {column}: {text}"
  | .tooLong length limit => s!"Query too long: {length} characters (limit is {limit})"
  | .unknownGraph slug => s!"Unknown graph: {slug}"
  | .lock text => s!"Lock poisoned: {text}"

/-- Whether the query as typed is to blame, and not a schema or the set-up. -/
def isUserMistake : Failure → Bool
  | .mismatch .. | .tooLong .. => true
  | _ => false

end Failure
end GraphQuery
