import GraphQuery.Http.Basic
import GraphQuery.Http.MediaType
import GraphQuery.Http.Path
import GraphQuery.Plan.Document
import GraphQuery.Registry.Basic
import GraphQuery.Schema.Document

/-! A registry behind HTTP: queries, new schemas, and the text of a grammar. -/

set_option autoImplicit false

namespace GraphQuery

/-- What the user typed is a bad request; what else fails is an error of the service. -/
def Failure.status (failure : Failure) : Nat :=
  match failure with
  | .unknownGraph _ => 404
  | failure => if failure.isUserMistake then 400 else 500

namespace Http

/-! Routes. -/

inductive Resource where
  | query
  | schema
  | grammar
  deriving DecidableEq, Repr

def Resource.methods : Resource → List String
  | .query => ["POST"]
  | .schema => ["PUT"]
  | .grammar => ["GET", "HEAD"]

def Resource.allow (resource : Resource) : String :=
  ",".intercalate resource.methods

def Resource.ofName? (name : List Char) : Option Resource :=
  if name = "query".toList then some .query
  else if name = "schema".toList then some .schema
  else if name = "grammar".toList then some .grammar
  else none

def route? (path : List Char) : Option (List Char × Resource) :=
  match path.splitOn '/' with
  | [[], version, graphs, slug, name] =>
    if version = "v1".toList ∧ graphs = "graphs".toList then
      (Resource.ofName? name).map fun resource => (slug, resource)
    else none
  | _ => none

/-! Bodies. -/

def readQuery : Json.Reader String :=
  let member := fun (query : Option String) (name : String) =>
    if name = "query" then Json.readField query Json.readText some
    else .ok (Json.skipAny *> pure query)
  Json.readRecord
    (do Json.required (← Json.readMembers Json.readStringBody member none true))
    (Json.readRequiredItem Json.readText true)

def faultStatus : Json.Fault → Nat
  | .malformed => 400
  | .wrongShape => 422

/-- Answers a request whose body is JSON. What follows the value in the body is not looked at. -/
def withBody {α σ : Type} (request : Request) (read : Json.Reader α) (state : σ)
    (answer : α → Response × σ) : Response × σ :=
  if !((request.header? "content-type").any isJsonMediaType) then ({ status := 415 }, state)
  else
    match Json.readPrefix read request.body with
    | .ok value => answer value
    | .error fault => ({ status := faultStatus fault }, state)

/-! Answers. -/

/-- The answer to a query, with the time that it took. -/
def queryJson (elapsed : Json) (result : Except Failure Plan) : Json :=
  .object <| match result with
    | .ok plan => [("status", .string "ok"), ("elapsed_ms", elapsed), ("plan", plan.toJson)]
    | .error failure =>
      [("status", .string "error"), ("elapsed_ms", elapsed), ("error", .string failure.message)]
        ++ match failure with
           | .mismatch _ column expected =>
             [("column", .nat column), ("expected", Json.strings expected)]
           | _ => []

def answerQuery (registry : Registry) (elapsed : Json) (slug query : String) : Response :=
  let result := registry.parse slug query
  { status := match result with
      | .ok _ => 200
      | .error failure => failure.status
    body := .json (queryJson elapsed result) }

/-- An inconsistent schema is the mistake of whoever sent it. -/
def schemaStatus : Failure → Nat
  | .inconsistentSchema _ => 400
  | failure => failure.status

def replaceSchema (registry : Registry) (slug : String) (schema : Schema) :
    Response × Registry :=
  match registry.register slug schema with
  | .ok (_, registry) =>
    ({ status := 200
       body := .json (.object
        [("status", .string "ok"), ("node_types", .nat schema.nodeTypes.length),
         ("relationship_types", .nat schema.relationshipTypes.length)]) }, registry)
  | .error failure =>
    ({ status := schemaStatus failure
       body := .json (.object
        [("status", .string "error"), ("error", .string failure.message)]) }, registry)

def describeGrammar (registry : Registry) (slug : String) : Response :=
  match registry.describe slug with
  | .ok text => { status := 200, body := .text text }
  | .error failure => { status := failure.status, body := .text failure.message }

def withoutBody (response : Response) : Response :=
  { response with body := .empty }

def answer (registry : Registry) (elapsed : Json) (request : Request) (slug : String) :
    Resource → Response × Registry
  | .query =>
    withBody request readQuery registry fun query =>
      (answerQuery registry elapsed slug query, registry)
  | .schema =>
    withBody request Schema.read registry fun schema => replaceSchema registry slug schema
  | .grammar =>
    let response := describeGrammar registry slug
    (if request.method = "HEAD" then withoutBody response else response, registry)

/-- The answer to whoever asks what a path takes; every path answers it. -/
def preflight (route : Option (List Char × Resource)) : Response where
  status := 200
  allow := route.map (·.2.allow)
  allowMethods := some "GET,POST,PUT"

def handle (registry : Registry) (elapsed : Json) (request : Request) : Response × Registry :=
  let route := route? (pathOf request.target)
  if request.method = "OPTIONS" then (preflight route, registry)
  else
    match route with
    | none => ({ status := 404 }, registry)
    | some (segment, resource) =>
      if request.method ∉ resource.methods then
        ({ status := 405, allow := some resource.allow }, registry)
      else
        match decodeSegment? segment with
        | none => ({ status := 400 }, registry)
        | some slug => answer registry elapsed request slug resource

end Http
end GraphQuery
