import GraphQuery.Http.Service
import GraphQuery.Proofs.Registry.Calls

/-! The service over whole runs.

A request that is understood makes one call on the registry, and every other request leaves it alone. What
is answered follows from the schemas that the calls before it left, and no answer is an error of the
service. -/

set_option autoImplicit false

namespace GraphQuery.Http

open Registry (Call current freshAnswer)

/-! Requests as calls. -/

def Request.content? {α : Type} (request : Request) (read : Json.Reader α) : Option α :=
  if (request.header? "content-type").any isJsonMediaType then
    (Json.readPrefix read request.body).toOption
  else none

def Resource.call? (request : Request) (slug : String) : Resource → Option Call
  | .query => (request.content? readQuery).map (.parse slug)
  | .schema => (request.content? Schema.read).map (.register slug)
  | .grammar => some (.describe slug)

/-- The call that a request makes, if its target, its method and its body are understood. -/
def Request.call? (request : Request) : Option Call := do
  let (segment, resource) ← route? (pathOf request.target)
  if request.method ∈ resource.methods then
    let slug ← decodeSegment? segment
    resource.call? request slug
  else none

variable {registry : Registry} {elapsed : Json} {request : Request} {call : Call}
variable {slug query : String} {schema : Schema}

theorem withBody_of_content {α σ : Type} {read : Json.Reader α} {content : α}
    (holds : request.content? read = some content) (state : σ) (answer : α → Response × σ) :
    withBody request read state answer = answer content := by
  rw [Request.content?] at holds
  split at holds
  · next json =>
    rw [toOption_eq_some] at holds
    simp [withBody, json, holds]
  · cases holds

/-- Statuses of requests that are not understood, and of those that only ask what a path takes. -/
def outside : List Nat := [200, 400, 404, 405, 415, 422]

theorem withBody_of_no_content {α : Type} {read : Json.Reader α} (none : request.content? read = none) :
    ∃ response : Response, response.status ∈ outside ∧
      ∀ (registry : Registry) (answer : α → Response × Registry),
        withBody request read registry answer = (response, registry) := by
  by_cases json : (request.header? "content-type").any isJsonMediaType = true
  · rw [Request.content?, if_pos json] at none
    cases body : Json.readPrefix read request.body with
    | ok value => simp [body, Except.toOption] at none
    | error fault =>
      refine ⟨{ status := faultStatus fault }, by cases fault <;> decide, fun registry answer => ?_⟩
      simp [withBody, json, body]
  · exact ⟨{ status := 415 }, by decide, fun registry answer => by simp [withBody, json]⟩

theorem handle_of_call (makes : request.call? = some call) (registry : Registry) (elapsed : Json) :
    ∃ (slug : String) (resource : Resource), request.method ∈ resource.methods ∧
      resource.call? request slug = some call ∧
      handle registry elapsed request = answer registry elapsed request slug resource := by
  simp only [Request.call?, bind, Option.bind_eq_some_iff, Option.ite_none_right_eq_some,
    Prod.exists] at makes
  obtain ⟨segment, resource, routed, takes, slug, decoded, makes⟩ := makes
  refine ⟨slug, resource, takes, makes, ?_⟩
  have asked : request.method ≠ "OPTIONS" := by
    rintro options
    rw [options] at takes
    cases resource <;> simp [Resource.methods] at takes
  simp only [handle, asked, routed, takes, decoded, if_false, not_true_eq_false]

theorem answer_of_no_call {resource : Resource} (none : resource.call? request slug = none) :
    ∃ response : Response, response.status ∈ outside ∧
      ∀ registry elapsed, answer registry elapsed request slug resource = (response, registry) := by
  cases resource with
  | query =>
    obtain ⟨response, status, refused⟩ := withBody_of_no_content (Option.map_eq_none_iff.mp none)
    exact ⟨response, status, fun registry _ => refused registry _⟩
  | schema =>
    obtain ⟨response, status, refused⟩ := withBody_of_no_content (Option.map_eq_none_iff.mp none)
    exact ⟨response, status, fun registry _ => refused registry _⟩
  | grammar => cases none

theorem handle_of_no_call (none : request.call? = none) :
    ∃ response : Response, response.status ∈ outside ∧
      ∀ registry elapsed, handle registry elapsed request = (response, registry) := by
  -- The cases are the places where a request can end before its resource, in the order of the checks.
  by_cases options : request.method = "OPTIONS"
  · exact ⟨preflight (route? (pathOf request.target)), by simp [preflight, outside],
      fun registry elapsed => if_pos options⟩
  simp only [handle, options, if_false]
  rw [Request.call?] at none
  cases routed : route? (pathOf request.target) with
  | none => exact ⟨_, by decide, fun _ _ => rfl⟩
  | some route =>
    obtain ⟨segment, resource⟩ := route
    simp only [routed, bind, Option.bind_some] at none
    by_cases takes : request.method ∈ resource.methods
    · simp only [takes, if_true, not_true_eq_false, if_false] at none ⊢
      cases decoded : decodeSegment? segment with
      | none => exact ⟨_, by decide, fun _ _ => rfl⟩
      | some slug =>
        simp only [decoded, Option.bind_some] at none
        exact answer_of_no_call none
    · exact ⟨{ status := 405, allow := some resource.allow }, by simp [outside], fun _ _ => if_pos takes⟩

theorem handle_of_parse (makes : request.call? = some (.parse slug query)) (registry : Registry)
    (elapsed : Json) :
    handle registry elapsed request = (answerQuery registry elapsed slug query, registry) := by
  obtain ⟨named, resource, _, makes, handled⟩ := handle_of_call makes registry elapsed
  cases resource with
  | query =>
    obtain ⟨content, holds, same⟩ := Option.map_eq_some_iff.mp makes
    cases same
    exact handled.trans (withBody_of_content holds registry _)
  | schema => simp [Resource.call?] at makes
  | grammar => simp [Resource.call?] at makes

example :
    (({ method := "POST", target := "/v1/graphs/town/query"
        headers := [("Content-Type", "application/json")]
        body := "[\"Person that likes People\"]" } : Request).call?.any fun
      | .parse slug query => slug == "town" && query == "Person that likes People"
      | _ => false) = true := by decide +kernel

theorem handle_of_register (makes : request.call? = some (.register slug schema))
    (registry : Registry) (elapsed : Json) :
    request.method = "PUT" ∧ handle registry elapsed request = replaceSchema registry slug schema := by
  obtain ⟨named, resource, takes, makes, handled⟩ := handle_of_call makes registry elapsed
  cases resource with
  | schema =>
    obtain ⟨content, holds, same⟩ := Option.map_eq_some_iff.mp makes
    cases same
    exact ⟨List.mem_singleton.mp takes, handled.trans (withBody_of_content holds registry _)⟩
  | query => simp [Resource.call?] at makes
  | grammar => simp [Resource.call?] at makes

theorem handle_of_describe (makes : request.call? = some (.describe slug)) (registry : Registry)
    (elapsed : Json) :
    handle registry elapsed request =
      (if request.method = "HEAD" then withoutBody (describeGrammar registry slug)
        else describeGrammar registry slug, registry) := by
  obtain ⟨named, resource, _, makes, handled⟩ := handle_of_call makes registry elapsed
  cases resource with
  | grammar =>
    cases makes
    exact handled
  | query => simp [Resource.call?] at makes
  | schema => simp [Resource.call?] at makes

/-! Answers. -/

def Body.member? (key : String) : Body → Option Json
  | .json value => value.member? key
  | .empty | .text _ => none

variable {maxLength : Nat} {schemas : String → Option Schema} {response : Response}

/-- A query is answered as a parser built afresh from the schema of the graph answers it. -/
structure AnswersQuery (maxLength : Nat) (schemas : String → Option Schema) (slug query : String)
    (response : Response) : Prop where
  unknown : response.status = 404 ↔ schemas slug = none
  mistaken : response.status = 400 ↔ schemas slug ≠ none ∧
    ((∃ length limit, freshAnswer maxLength schemas slug query = .error (.tooLong length limit)) ∨
      ∃ text column expected,
        freshAnswer maxLength schemas slug query = .error (.mismatch text column expected))
  otherwise : response.status ≠ 404 → response.status ≠ 400 → response.status = 200
  plan : (response.body.member? "plan").isSome = true ↔ response.status = 200
  error : (response.body.member? "error").isSome = true ↔ response.status ≠ 200
  column : (response.body.member? "column").isSome = true ↔ ∃ text column expected,
    freshAnswer maxLength schemas slug query = .error (.mismatch text column expected)
  expected : (response.body.member? "expected").isSome = true ↔ ∃ text column expected,
    freshAnswer maxLength schemas slug query = .error (.mismatch text column expected)

theorem isSome_member_object {key : String} {members : List (String × Json)} :
    ((Json.object members).member? key).isSome = true ↔ key ∈ members.map (·.1) := by
  rw [Json.member?, List.lookup_isSome_iff]
  simp only [List.mem_reverse, List.mem_map, beq_iff_eq, @eq_comm _ key]

theorem answersQuery (refines : registry.Refines maxLength schemas)
    (makes : request.call? = some (.parse slug query)) (elapsed : Json) :
    AnswersQuery maxLength schemas slug query (handle registry elapsed request).1 := by
  rw [handle_of_parse makes, answerQuery, refines.parse slug query]
  rcases refines.answer_cases slug query with
    ⟨unknown, answer⟩ | ⟨known, ⟨length, limit, answer⟩ | ⟨text, column, expected, answer⟩ |
      ⟨plan, answer⟩⟩
  -- The result alone decides the status and the members of the body.
  all_goals
    rw [answer]
    constructor <;>
      simp [*, Failure.status, Failure.isUserMistake, Body.member?, queryJson, isSome_member_object]

structure AnswersGrammar (schemas : String → Option Schema) (slug method : String)
    (response : Response) : Prop where
  unknown : schemas slug = none → response.status = 404
  known : ∀ schema, schemas slug = some schema → ∃ grammar,
    Grammar.ofSchema schema = .ok grammar ∧ response.status = 200 ∧
      (method = "GET" → response.body = .text grammar.describe)

theorem answersGrammar (refines : registry.Refines maxLength schemas)
    (makes : request.call? = some (.describe slug)) (elapsed : Json) :
    AnswersGrammar schemas slug request.method (handle registry elapsed request).1 := by
  rw [handle_of_describe makes]
  have parser := refines.parser slug
  rw [Registry.freshParser] at parser
  constructor
  · intro unknown
    simp only [unknown] at parser
    simp only [describeGrammar, Registry.describe, parser]
    split <;> rfl
  · intro schema known
    have valid := refines.valid slug schema known
    simp only [known, Parser.ofSchema_of_valid valid] at parser
    refine ⟨.ofTypes schema, Grammar.ofSchema_eq_ok.mpr ⟨valid, rfl⟩, ?_⟩
    simp only [describeGrammar, Registry.describe, parser]
    constructor
    · split <;> rfl
    · intro get
      rw [if_neg (by rw [get]; decide)]
      rfl

theorem status_of_register (makes : request.call? = some (.register slug schema))
    (registry : Registry) (elapsed : Json) :
    (handle registry elapsed request).1.status = if schema.validate = .ok () then 200 else 400 := by
  rw [(handle_of_register makes registry elapsed).2, replaceSchema]
  cases valid : schema.validate with
  | ok => simp [Registry.register_of_valid valid]
  | error flaw => simp [Registry.register_of_flaw valid, schemaStatus]

theorem valid_of_accepted (makes : request.call? = some (.register slug schema))
    (accepted : (handle registry elapsed request).1.status = 200) : schema.validate = .ok () := by
  rw [status_of_register makes] at accepted
  refine Decidable.byContradiction fun flawed => ?_
  rw [if_neg flawed] at accepted
  cases accepted

/-! One request. -/

theorem call_cases (request : Request) :
    request.call? = none ∨ (∃ slug query, request.call? = some (.parse slug query)) ∨
      (∃ slug schema, request.call? = some (.register slug schema)) ∨
      ∃ slug, request.call? = some (.describe slug) := by
  cases makes : request.call? with
  | none => exact .inl rfl
  | some call =>
    obtain ⟨slug, resource, _, made, _⟩ := handle_of_call makes (.empty 0) .null
    refine .inr ?_
    cases resource with
    | query =>
      obtain ⟨query, _, rfl⟩ := Option.map_eq_some_iff.mp made
      exact .inl ⟨slug, query, rfl⟩
    | schema =>
      obtain ⟨schema, _, rfl⟩ := Option.map_eq_some_iff.mp made
      exact .inr (.inl ⟨slug, schema, rfl⟩)
    | grammar =>
      cases made
      exact .inr (.inr ⟨slug, rfl⟩)

/-- A request leaves the registry as the call that it makes does. -/
theorem registry_handle (registry : Registry) (elapsed : Json) (request : Request) :
    (handle registry elapsed request).2 =
      request.call?.elim registry fun call => (registry.take call).2 := by
  rcases call_cases request with none | ⟨slug, query, makes⟩ | ⟨slug, schema, makes⟩ | ⟨slug, makes⟩
  · obtain ⟨response, _, handled⟩ := handle_of_no_call none
    rw [handled, none]
    rfl
  · rw [handle_of_parse makes, makes]
    rfl
  · rw [(handle_of_register makes _ _).2, makes]
    rw [replaceSchema, Option.elim_some, Registry.take]
    cases registry.register slug schema <;> rfl
  · rw [handle_of_describe makes, makes]
    rfl

structure Exchange where
  before : Registry
  request : Request
  response : Response
  after : Registry

def exchange (registry : Registry) (elapsed : Json) (request : Request) : Exchange where
  before := registry
  request := request
  response := (handle registry elapsed request).1
  after := (handle registry elapsed request).2

variable {past : List Call}

/-- What happens at a request, by the calls on the registry before it alone. -/
structure Exchange.Follows (maxLength : Nat) (past : List Call) (exchange : Exchange) : Prop where
  before : exchange.before.Refines maxLength (current past)
  after : exchange.after.Refines maxLength (current (past ++ exchange.request.call?.toList))
  status : exchange.response.status ≠ 500
  query : ∀ slug query, exchange.request.call? = some (.parse slug query) →
    AnswersQuery maxLength (current past) slug query exchange.response
  schema : ∀ slug schema, exchange.request.call? = some (.register slug schema) →
    exchange.response.status = if schema.validate = .ok () then 200 else 400
  grammar : ∀ slug, exchange.request.call? = some (.describe slug) →
    AnswersGrammar (current past) slug exchange.request.method exchange.response
  /-- Only a new schema changes the registry. -/
  changed : exchange.after ≠ exchange.before → ∃ slug schema,
    exchange.request.call? = some (.register slug schema) ∧ exchange.request.method = "PUT" ∧
      exchange.response.status = 200
  /-- A new schema is that of its own graph, and of no other. -/
  replaced : ∀ slug schema, exchange.request.call? = some (.register slug schema) →
    exchange.response.status = 200 → ∀ asked,
      current (past ++ exchange.request.call?.toList) asked =
        if asked = slug then some schema else current past asked

theorem status_handle (refines : registry.Refines maxLength schemas) (elapsed : Json)
    (request : Request) : (handle registry elapsed request).1.status ≠ 500 := by
  rcases call_cases request with none | ⟨slug, query, makes⟩ | ⟨slug, schema, makes⟩ | ⟨slug, makes⟩
  · obtain ⟨response, status, handled⟩ := handle_of_no_call none
    rw [handled]
    rintro (broken : response.status = 500)
    simp [broken, outside] at status
  · have answers := answersQuery refines makes elapsed
    intro broken
    have planned := answers.otherwise (by rw [broken]; decide) (by rw [broken]; decide)
    rw [broken] at planned
    cases planned
  · rw [status_of_register makes]
    split <;> decide
  · have answers := answersGrammar refines makes elapsed
    cases registered : schemas slug with
    | none =>
      rw [answers.unknown registered]
      decide
    | some schema =>
      obtain ⟨_, _, status, _⟩ := answers.known schema registered
      rw [status]
      decide

theorem put_of_changed (changed : (handle registry elapsed request).2 ≠ registry) :
    ∃ slug schema, request.call? = some (.register slug schema) ∧ request.method = "PUT" ∧
      (handle registry elapsed request).1.status = 200 := by
  rw [registry_handle] at changed
  rcases call_cases request with none | ⟨slug, query, makes⟩ | ⟨slug, schema, makes⟩ | ⟨slug, makes⟩
  · rw [none] at changed
    exact absurd rfl changed
  · rw [makes] at changed
    exact absurd rfl changed
  · refine ⟨slug, schema, makes, (handle_of_register makes registry elapsed).1, ?_⟩
    rw [makes] at changed
    rw [status_of_register makes]
    -- A schema with a flaw would have left the registry alone.
    exact if_pos (Decidable.byContradiction fun flawed => changed (Registry.take_of_idle (.inl flawed)))
  · rw [makes] at changed
    exact absurd rfl changed

theorem current_of_register (valid : schema.validate = .ok ()) (past : List Call) (slug asked : String) :
    current (past ++ [.register slug schema]) asked =
      if asked = slug then some schema else current past asked := by
  rw [Registry.current_concat, Call.changes, if_pos valid, List.reverse_singleton,
    Registry.lookup_singleton]
  split <;> rfl

theorem follows_exchange (refines : registry.Refines maxLength (current past)) (elapsed : Json)
    (request : Request) : (exchange registry elapsed request).Follows maxLength past where
  before := refines
  after := by
    simp only [exchange, registry_handle]
    cases request.call? with
    | none => rwa [Option.toList_none, List.append_nil]
    | some call => exact refines.take call
  status := status_handle refines elapsed request
  query _ _ makes := answersQuery refines makes elapsed
  schema _ _ makes := status_of_register makes registry elapsed
  grammar _ makes := answersGrammar refines makes elapsed
  changed := put_of_changed
  replaced slug schema makes accepted asked := by
    rw [show (exchange registry elapsed request).request.call? = _ from makes]
    exact current_of_register (valid_of_accepted makes accepted) past slug asked

/-! Runs. -/

/-- Answers requests one after the other. Each comes with the time that its answer takes. -/
def serve (registry : Registry) : List (Json × Request) → List Exchange
  | [] => []
  | (elapsed, request) :: rest =>
    exchange registry elapsed request :: serve (handle registry elapsed request).2 rest

theorem request_serve (registry : Registry) (requests : List (Json × Request)) :
    (serve registry requests).map (·.request) = requests.map (·.2) := by
  induction requests generalizing registry with
  | nil => rfl
  | cons first rest ih => exact congrArg (first.2 :: ·) (ih (handle registry first.1 first.2).2)

theorem follows_serve (refines : registry.Refines maxLength (current past))
    (requests : List (Json × Request)) {earlier later : List Exchange} {exchange : Exchange}
    (split : serve registry requests = earlier ++ exchange :: later) :
    exchange.Follows maxLength (past ++ earlier.filterMap (·.request.call?)) := by
  -- On the requests, with all calls on the registry before them.
  induction requests generalizing registry past earlier with
  | nil => simp [serve] at split
  | cons first rest ih =>
    have follows := follows_exchange refines first.1 first.2
    cases earlier with
    | nil =>
      obtain ⟨rfl, _⟩ := List.cons.inj split
      rw [List.filterMap_nil, List.append_nil]
      exact follows
    | cons before earlier =>
      obtain ⟨rfl, others⟩ := List.cons.inj split
      have rest_follows := ih follows.after others
      rw [List.append_assoc] at rest_follows
      rw [List.filterMap_cons]
      cases makes : first.2.call? <;> simpa [Http.exchange, makes] using rest_follows

/-- After any calls on a registry and any requests to it, a request is answered by the schemas that they
left. No answer is an error of the service, and only a valid schema sent to a graph changes anything: the
schema of that graph. -/
theorem follows_of_serve (maxLength : Nat) (calls : List Call) (requests : List (Json × Request)) :
    let exchanges := serve ((Registry.empty maxLength).run calls).2 requests
    exchanges.map (·.request) = requests.map (·.2) ∧
      ∀ earlier exchange later, exchanges = earlier ++ exchange :: later →
        exchange.Follows maxLength (calls ++ earlier.filterMap (·.request.call?)) :=
  ⟨request_serve _ requests, fun _ _ _ split =>
    follows_serve ((Registry.refines_empty maxLength).run calls) requests split⟩

end GraphQuery.Http
