import GraphQuery.Json.Basic

/-! Requests and responses. -/

set_option autoImplicit false

namespace GraphQuery.Http

structure Request where
  method : String
  target : String
  headers : List (String × String)
  body : String
  deriving DecidableEq, Repr

/-- Letter case makes no difference in the names of headers. -/
def Request.header? (request : Request) (name : String) : Option String :=
  (request.headers.find? fun header => header.1.toLower == name).map (·.2)

inductive Body where
  | empty
  | text (text : String)
  | json (value : Json)

structure Response where
  status : Nat
  /-- The methods that the path takes, where this is said. -/
  allow : Option String := none
  /-- Which other sites may have the answer. -/
  allowOrigin : String := "*"
  allowMethods : Option String := none
  body : Body := .empty

end GraphQuery.Http
