import GraphQuery.Proofs.Outcomes
import GraphQuery.Proofs.Registry.Directory

/-! Registries over whole runs.

A registry is a map of schemas: under each slug it has the parser of the schema registered last, if that
was not removed since. Every call keeps this, one that fails too, and answers by the map alone. -/

set_option autoImplicit false

namespace GraphQuery.Registry

inductive Call where
  | register (slug : String) (schema : Schema)
  | remove (slug : String)
  | parser (slug : String)
  | parse (slug query : String)
  | describe (slug : String)
  | slugs
  | loadDirectory (directory : Option Directory)

abbrev Call.Answer : Call → Type
  | .register .. => Except Failure Parser
  | .remove _ => Bool
  | .parser _ => Except Failure Parser
  | .parse .. => Except Failure Plan
  | .describe _ => Except Failure String
  | .slugs => List String
  | .loadDirectory _ => Nat

def take (registry : Registry) : (call : Call) → call.Answer × Registry
  | .register slug schema =>
    match registry.register slug schema with
    | .ok (parser, registry) => (.ok parser, registry)
    | .error failure => (.error failure, registry)
  | .remove slug => registry.remove slug
  | .parser slug => (registry.parser slug, registry)
  | .parse slug query => (registry.parse slug query, registry)
  | .describe slug => (registry.describe slug, registry)
  | .slugs => (registry.slugs, registry)
  | .loadDirectory directory => registry.loadDirectory directory

abbrev Event := (call : Call) × call.Answer

def run (registry : Registry) : List Call → List Event × Registry
  | [] => ([], registry)
  | call :: rest =>
    let later := (registry.take call).2.run rest
    (⟨call, (registry.take call).1⟩ :: later.1, later.2)

/-! The map of schemas. -/

/-- The slugs whose schemas a call changes, in its order: to a new one, or to none. -/
def Call.changes : Call → List (String × Option Schema)
  | .register slug schema => if schema.validate = .ok () then [(slug, some schema)] else []
  | .remove slug => [(slug, none)]
  | .loadDirectory directory =>
    (registrations (directory.getD [])).map fun pair => (pair.1, some pair.2)
  | .parser _ | .parse .. | .describe _ | .slugs => []

/-- What some calls leave under a slug: the schema registered last, if it was not removed since. -/
def current (calls : List Call) (slug : String) : Option Schema :=
  ((calls.flatMap Call.changes).reverse.lookup slug).join

variable {registry : Registry} {maxLength : Nat} {calls : List Call} {slug : String} {schema : Schema}

theorem current_concat (calls : List Call) (call : Call) (slug : String) :
    current (calls ++ [call]) slug = (call.changes.reverse.lookup slug).getD (current calls slug) := by
  rw [current, List.flatMap_append, List.flatMap_singleton, List.reverse_append, List.lookup_append,
    current]
  cases call.changes.reverse.lookup slug <;> rfl

theorem Call.valid_of_change {call : Call} (change : (slug, some schema) ∈ call.changes) :
    schema.validate = .ok () := by
  cases call with
  | register named registered =>
    rw [changes] at change
    split at change
    · next valid =>
      obtain ⟨_, same⟩ := Prod.mk.inj (List.mem_singleton.mp change)
      rwa [Option.some.inj same]
    · cases change
  | remove => cases List.mem_singleton.mp change
  | loadDirectory directory =>
    obtain ⟨pair, member, same⟩ := List.mem_map.mp change
    obtain ⟨_, same⟩ := Prod.mk.inj same
    obtain ⟨_, _, _, holds⟩ := mem_registrations.mp (show (pair.1, pair.2) ∈ _ from member)
    rw [← Option.some.inj same]
    exact (FileContent.holds_iff.mp holds).2
  | parser | parse | describe | slugs => cases change

/-- Only valid schemas are ever registered. -/
theorem valid_of_current (registered : current calls slug = some schema) :
    schema.validate = .ok () := by
  rw [current, Option.join_eq_some_iff, List.lookup_eq_some_iff] at registered
  obtain ⟨before, after, split, -⟩ := registered
  have change : (slug, some schema) ∈ calls.flatMap Call.changes := by
    rw [← List.mem_reverse, split]
    exact List.mem_append_right _ List.mem_cons_self
  obtain ⟨call, _, change⟩ := List.mem_flatMap.mp change
  exact call.valid_of_change change

/-! One call. -/

theorem lookup_map_some (pairs : List (String × Schema)) (slug : String) :
    (pairs.map fun pair => (pair.1, some pair.2)).lookup slug = (pairs.lookup slug).map some := by
  induction pairs with
  | nil => rfl
  | cons pair rest ih =>
    rw [List.map_cons, List.lookup_cons, List.lookup_cons, ih]
    cases slug == pair.1 <;> rfl

@[simp] theorem maxLength_take (registry : Registry) (call : Call) :
    (registry.take call).2.maxLength = registry.maxLength := by
  cases call with
  | register slug schema =>
    cases valid : schema.validate with
    | ok => simp only [take, register_of_valid valid, put]
    | error flaw => simp only [take, register_of_flaw valid]
  | loadDirectory directory => rw [take, loadDirectory_eq, maxLength_putAll]
  | remove | parser | parse | describe | slugs => rfl

theorem parsers_take (registry : Registry) (call : Call) (slug : String) :
    (registry.take call).2.parsers[slug]? =
      ((call.changes.reverse.lookup slug).map
        (·.map (Parser.forTypes · registry.maxLength))).getD registry.parsers[slug]? := by
  cases call with
  | register named schema =>
    cases valid : schema.validate with
    | ok =>
      simp only [take, register_of_valid valid, parsers_put, Call.changes, valid, if_true,
        List.reverse_singleton, lookup_singleton]
      split <;> rfl
    | error flaw => simp [take, register_of_flaw valid, Call.changes, valid]
  | remove named =>
    simp only [take, parsers_remove, Call.changes, List.reverse_singleton, lookup_singleton]
    split <;> rfl
  | loadDirectory directory =>
    rw [take, loadDirectory_eq, parsers_putAll, Call.changes, ← List.map_reverse, lookup_map_some]
    cases (registrations (directory.getD [])).reverse.lookup slug <;> rfl
  | parser | parse | describe | slugs => rfl

/-- The parsers of a registry are those of the schemas, all of them valid. -/
structure Refines (registry : Registry) (maxLength : Nat) (schemas : String → Option Schema) :
    Prop where
  limit : registry.maxLength = maxLength
  valid : ∀ slug schema, schemas slug = some schema → schema.validate = .ok ()
  parsers : ∀ slug : String, registry.parsers[slug]? = (schemas slug).map (Parser.forTypes · maxLength)

theorem refines_empty (maxLength : Nat) : (empty maxLength).Refines maxLength (current []) where
  limit := rfl
  valid _ _ registered := valid_of_current registered
  parsers _ := Std.ExtTreeMap.getElem?_empty

theorem Refines.take (refines : registry.Refines maxLength (current calls)) (call : Call) :
    (registry.take call).2.Refines maxLength (current (calls ++ [call])) where
  limit := (maxLength_take registry call).trans refines.limit
  valid _ _ registered := valid_of_current registered
  parsers slug := by
    -- What the call changes is new on both sides, and the rest is old on both.
    rw [parsers_take, current_concat, refines.parsers, refines.limit]
    cases call.changes.reverse.lookup slug <;> rfl

/-! The answers. -/

def freshParser (maxLength : Nat) (schemas : String → Option Schema) (slug : String) :
    Except Failure Parser :=
  match schemas slug with
  | some schema => Parser.ofSchema schema maxLength
  | none => .error (.unknownGraph slug)

def freshAnswer (maxLength : Nat) (schemas : String → Option Schema) (slug query : String) :
    Except Failure Plan := do
  (← freshParser maxLength schemas slug).parse query

/-- What a call answers, by the schemas alone. -/
def Call.Answers (maxLength : Nat) (schemas : String → Option Schema) :
    (call : Call) → call.Answer → Prop
  | .register _ schema, answer => answer = Parser.ofSchema schema maxLength
  | .remove slug, known => known = (schemas slug).isSome
  | .parser slug, answer => answer = freshParser maxLength schemas slug
  | .parse slug query, answer => answer = freshAnswer maxLength schemas slug query
  | .describe slug, answer =>
    answer = do pure (← freshParser maxLength schemas slug).grammar.describe
  | .slugs, listed => listed.Pairwise (· < ·) ∧ ∀ slug, slug ∈ listed ↔ (schemas slug).isSome = true
  | .loadDirectory directory, count => count = (directory.getD []).countP (Registers ·)

variable {schemas : String → Option Schema}

theorem Refines.parser (refines : registry.Refines maxLength schemas) (slug : String) :
    registry.parser slug = freshParser maxLength schemas slug := by
  rw [Registry.parser, refines.parsers, freshParser]
  cases registered : schemas slug with
  | none => rfl
  | some schema => exact (Parser.ofSchema_of_valid (refines.valid slug schema registered) _).symm

theorem Refines.parse (refines : registry.Refines maxLength schemas) (slug query : String) :
    registry.parse slug query = freshAnswer maxLength schemas slug query := by
  rw [Registry.parse, refines.parser, freshAnswer]

/-- A query to a graph without a schema has no answer, and any other one is too long, or does not match,
or has a plan. -/
theorem Refines.answer_cases (refines : registry.Refines maxLength schemas) (slug query : String) :
    schemas slug = none ∧ freshAnswer maxLength schemas slug query = .error (.unknownGraph slug) ∨
      schemas slug ≠ none ∧
        ((∃ length limit, freshAnswer maxLength schemas slug query = .error (.tooLong length limit)) ∨
          (∃ text column expected,
            freshAnswer maxLength schemas slug query = .error (.mismatch text column expected)) ∨
          ∃ plan, freshAnswer maxLength schemas slug query = .ok plan) := by
  rw [freshAnswer, freshParser]
  cases registered : schemas slug with
  | none => exact .inl ⟨rfl, rfl⟩
  | some schema =>
    refine .inr ⟨Option.some_ne_none schema, ?_⟩
    simp only [Parser.ofSchema_of_valid (refines.valid slug schema registered)]
    have answer := Parser.parse_cases (.forTypes schema maxLength) query
    split at answer
    · exact .inl ⟨_, _, answer⟩
    · rcases answer with planned | mismatch
      · exact .inr (.inr planned)
      · exact .inr (.inl mismatch)

theorem Refines.isSome_parsers (refines : registry.Refines maxLength schemas) (slug : String) :
    registry.parsers[slug]?.isSome = (schemas slug).isSome := by
  rw [refines.parsers, Option.isSome_map]

theorem Refines.answers (refines : registry.Refines maxLength schemas) (call : Call) :
    call.Answers maxLength schemas (registry.take call).1 := by
  cases call with
  | register slug schema =>
    simp only [Call.Answers, Registry.take, register, refines.limit]
    cases Parser.ofSchema schema maxLength <;> rfl
  | remove slug => exact (known_of_remove registry slug).trans (refines.isSome_parsers slug)
  | parser slug => exact refines.parser slug
  | parse slug query => exact refines.parse slug query
  | describe slug =>
    exact congrArg (· >>= fun parser => pure parser.grammar.describe) (refines.parser slug)
  | slugs =>
    refine ⟨slugs_increasing registry, fun slug => mem_slugs.trans ?_⟩
    rw [refines.isSome_parsers]
  | loadDirectory directory =>
    simp only [Call.Answers, Registry.take, loadDirectory_eq, length_registrations]

/-- The call only reads, or it did not do what it was made for. -/
def Call.Idle : (call : Call) → call.Answer → Prop
  | .register _ schema, answer => schema.validate ≠ .ok () ∨ ∃ failure, answer = .error failure
  | .remove _, known => known = false
  | .loadDirectory _, count => count = 0
  | .parser _, _ | .parse .., _ | .describe _, _ | .slugs, _ => True

theorem take_of_idle {call : Call} (idle : call.Idle (registry.take call).1) :
    (registry.take call).2 = registry := by
  cases call with
  | register slug schema =>
    cases valid : schema.validate with
    | ok =>
      rcases idle with flawed | ⟨failure, refused⟩
      · exact absurd valid flawed
      · simp only [take, register_of_valid valid] at refused
        cases refused
    | error flaw => simp only [take, register_of_flaw valid]
  | remove slug =>
    refine remove_of_unknown (Option.isNone_iff_eq_none.mp ?_)
    rw [← Option.not_isSome, ← known_of_remove registry slug]
    simpa [Call.Idle, take] using idle
  | loadDirectory directory =>
    simp only [Call.Idle, take, loadDirectory_eq, List.length_eq_zero_iff] at idle ⊢
    rw [idle]
    rfl
  | parser | parse | describe | slugs => rfl

/-! Runs. -/

theorem call_run (registry : Registry) (calls : List Call) :
    (registry.run calls).1.map (·.1) = calls := by
  induction calls generalizing registry with
  | nil => rfl
  | cons call rest ih => exact congrArg (call :: ·) (ih (registry.take call).2)

theorem run_concat (registry : Registry) (calls : List Call) (call : Call) :
    (registry.run (calls ++ [call])).2 = ((registry.run calls).2.take call).2 := by
  induction calls generalizing registry with
  | nil => rfl
  | cons first rest ih => exact ih (registry.take first).2

theorem Refines.run (refines : registry.Refines maxLength (current calls)) (later : List Call) :
    (registry.run later).2.Refines maxLength (current (calls ++ later)) := by
  induction later generalizing registry calls with
  | nil => rwa [List.append_nil]
  | cons call rest ih =>
    rw [List.append_cons]
    exact ih (refines.take call)

theorem event_of_run {registry : Registry} {calls : List Call} {earlier later : List Event}
    {event : Event} (split : (registry.run calls).1 = earlier ++ event :: later) :
    event = ⟨event.1, ((registry.run (earlier.map (·.1))).2.take event.1).1⟩ := by
  induction calls generalizing registry earlier with
  | nil => simp [run] at split
  | cons call rest ih =>
    cases earlier with
    | nil =>
      obtain ⟨rfl, _⟩ := List.cons.inj split
      rfl
    | cons first earlier =>
      obtain ⟨rfl, others⟩ := List.cons.inj split
      have answered := ih others
      exact answered

/-- In every run each call is answered by the schemas that the calls before it left, with a parser built
afresh from the schema where one is asked for, and a call that only reads or that fails changes nothing. -/
theorem answers_of_run (maxLength : Nat) (calls : List Call) :
    ((empty maxLength).run calls).1.map (·.1) = calls ∧
      (∀ earlier call answer later,
        ((empty maxLength).run calls).1 = earlier ++ ⟨call, answer⟩ :: later →
          let before := ((empty maxLength).run (earlier.map (·.1))).2
          before.Refines maxLength (current (earlier.map (·.1))) ∧
            call.Answers maxLength (current (earlier.map (·.1))) answer ∧
            (call.Idle answer →
              ((empty maxLength).run (earlier.map (·.1) ++ [call])).2 = before)) ∧
      ((empty maxLength).run calls).2.Refines maxLength (current calls) := by
  refine ⟨call_run _ calls, fun earlier call answer later split => ?_, (refines_empty _).run calls⟩
  have answered : answer = (((empty maxLength).run (earlier.map (·.1))).2.take call).1 :=
    eq_of_heq (Sigma.mk.inj (event_of_run split)).2
  have refines := (refines_empty maxLength).run (earlier.map (·.1))
  rw [answered, run_concat]
  exact ⟨refines, refines.answers call, take_of_idle⟩

end GraphQuery.Registry
