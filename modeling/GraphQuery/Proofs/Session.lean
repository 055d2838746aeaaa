import GraphQuery.Proofs.Plan.Labels
import GraphQuery.Session

/-! Sessions over whole runs.

The labels of a session say how often each type has been used since labels were last fresh. Every step
keeps this account, a query also where it fails, so that it holds after any run. -/

set_option autoImplicit false

namespace GraphQuery.Session

open Grammar

inductive Step where
  | mint (entry : TypeEntry)
  | reset
  | parse (query : String)

inductive Event where
  | minted (entry : TypeEntry) (label : String)
  | reset
  | parsed (query : String) (answer : Except Failure Plan)

def Event.step : Event → Step
  | .minted entry _ => .mint entry
  | .reset => .reset
  | .parsed query _ => .parse query

def take (session : Session) : Step → Event × Session
  | .mint entry => ((.minted entry (session.mint entry).1), (session.mint entry).2)
  | .reset => (.reset, session.reset)
  | .parse query => (.parsed query (session.parse query).1, (session.parse query).2)

def run (session : Session) : List Step → List Event × Session
  | [] => ([], session)
  | step :: rest =>
    let later := (session.take step).2.run rest
    ((session.take step).1 :: later.1, later.2)

/-! Uses of a type. -/

/-- How often an event uses a type. A plan uses it once for each of its occurrences. -/
def Event.uses (kind : Kind) (id : TypeId) : Event → Nat
  | .minted entry _ => if entry.kind = kind ∧ entry.id = id then 1 else 0
  | .parsed _ (.ok plan) => (occurrences kind id plan.origins).length
  | .reset | .parsed _ (.error _) => 0

/-- Labels are fresh after a reset, and when a query begins. -/
def Event.startsOver : Event → Bool
  | .minted _ _ => false
  | .reset | .parsed _ _ => true

/-- The events from the last reset or query on, or all if there was none. -/
def recent : List Event → List Event
  | [] => []
  | event :: later => if later.any (·.startsOver) then recent later else event :: later

def uses (kind : Kind) (id : TypeId) (events : List Event) : Nat :=
  (recent events).foldl (fun count event => count + event.uses kind id) 0

theorem recent_concat (events : List Event) (event : Event) :
    recent (events ++ [event]) = if event.startsOver then [event] else recent events ++ [event] := by
  induction events with
  | nil => simp [recent]
  | cons first rest ih =>
    rw [List.cons_append, recent, recent, ih, List.any_append]
    by_cases start : event.startsOver = true
    · simp [start]
    · by_cases earlier : (rest.any (·.startsOver)) = true <;> simp [start, earlier]

theorem uses_concat (kind : Kind) (id : TypeId) (events : List Event) (event : Event) :
    uses kind id (events ++ [event]) =
      (if event.startsOver then 0 else uses kind id events) + event.uses kind id := by
  unfold uses
  rw [recent_concat]
  split <;> simp

/-! One step. -/

def Accounts (session : Session) (events : List Event) : Prop :=
  ∀ kind id, session.labels.used kind id = uses kind id events

variable {schema : Schema} {maxLength : Nat} {session : Session} {past : List Event}

@[simp] theorem parser_take (session : Session) (step : Step) :
    (session.take step).2.parser = session.parser := by
  cases step <;> rfl

theorem Accounts.mint (accounts : Accounts session past) (entry : TypeEntry) :
    Accounts (session.mint entry).2 (past ++ [.minted entry (session.mint entry).1]) := by
  intro kind id
  rw [uses_concat]
  simp only [Event.startsOver, Event.uses, Bool.false_eq_true, if_false, ← accounts kind id]
  by_cases same : entry.kind = kind ∧ entry.id = id
  · obtain ⟨rfl, rfl⟩ := same
    rw [if_pos ⟨rfl, rfl⟩]
    exact used_mint_self session.labels entry
  · rw [if_neg same]
    exact used_mint_of_ne same

theorem accounts_reset (session : Session) (past : List Event) :
    Accounts session.reset (past ++ [.reset]) := by
  intro kind id
  rw [uses_concat]
  rfl

/-- A query that fails has used nothing, since it fails before its first label. -/
theorem accounts_parse (assembled : Parser.ofSchema schema maxLength = .ok session.parser)
    (past : List Event) (query : String) :
    Accounts (session.parse query).2 (past ++ [.parsed query (session.parse query).1]) := by
  intro kind id
  rw [uses_concat]
  simp only [Event.startsOver, if_true, Nat.zero_add]
  change (session.parser.parseFrom .fresh query).2.used kind id =
    Event.uses kind id (.parsed query (session.parser.parseFrom .fresh query).1)
  rcases session.parser.parseFrom_cases .fresh query with
    ⟨_, answer⟩ | ⟨_, ⟨text, column, expected, answer⟩ | ⟨plan, after, answer⟩⟩
  · rw [answer]
    rfl
  · rw [answer]
    rfl
  · rw [answer]
    have run := Plan.labelled_of_parseFrom assembled answer
    rw [run.used kind id]
    exact Nat.zero_add _

theorem Accounts.take (assembled : Parser.ofSchema schema maxLength = .ok session.parser)
    (accounts : Accounts session past) (step : Step) :
    Accounts (session.take step).2 (past ++ [(session.take step).1]) := by
  cases step with
  | mint entry => exact accounts.mint entry
  | reset => exact accounts_reset session past
  | parse query => exact accounts_parse assembled past query

/-- What an event gives, by the parser and the events before it alone. -/
def Event.Follows (parser : Parser) (earlier : List Event) : Event → Prop
  | .minted entry label => label = entry.label (Session.uses entry.kind entry.id earlier)
  | .reset => True
  | .parsed query answer => answer = parser.parse query

theorem Accounts.follows (accounts : Accounts session past) (step : Step) :
    (session.take step).1.Follows session.parser past := by
  cases step with
  | mint entry => exact congrArg entry.label (accounts entry.kind entry.id)
  | reset => trivial
  | parse query => rfl

/-! Runs. -/

theorem step_run (session : Session) (steps : List Step) :
    (session.run steps).1.map (·.step) = steps := by
  induction steps generalizing session with
  | nil => rfl
  | cons step rest ih =>
    simp only [run, List.map_cons, ih, List.cons.injEq, and_true]
    cases step <;> rfl

theorem Accounts.run (assembled : Parser.ofSchema schema maxLength = .ok session.parser)
    (accounts : Accounts session past) (steps : List Step) :
    Accounts (session.run steps).2 (past ++ (session.run steps).1) := by
  induction steps generalizing session past with
  | nil => simpa [Session.run] using accounts
  | cons step rest ih =>
    have later := ih (by rwa [parser_take]) (accounts.take assembled step)
    rwa [List.append_assoc] at later

/-- Each event of a run follows from those before it. -/
theorem Accounts.follows_of_run (assembled : Parser.ofSchema schema maxLength = .ok session.parser)
    (accounts : Accounts session past) (steps : List Step) {earlier later : List Event} {event : Event}
    (split : (session.run steps).1 = earlier ++ event :: later) :
    event.Follows session.parser (past ++ earlier) := by
  -- On the steps, with all events before them.
  induction steps generalizing session past earlier with
  | nil => simp [Session.run] at split
  | cons step rest ih =>
    cases earlier with
    | nil =>
      obtain ⟨rfl, _⟩ := List.cons.inj split
      rw [List.append_nil]
      exact accounts.follows step
    | cons first earlier =>
      obtain ⟨rfl, others⟩ := List.cons.inj split
      have follows := ih (by rwa [parser_take]) (accounts.take assembled step) others
      rwa [parser_take, List.append_assoc] at follows

theorem accounts_start (parser : Parser) : Accounts (start parser) [] :=
  fun _ _ => rfl

/-- In every run a query is answered as if it were the first, and a label carries the number of uses of
its type since labels were last fresh, which they are after a query that fails. -/
theorem events_of_run {parser : Parser} (assembled : Parser.ofSchema schema maxLength = .ok parser)
    (steps : List Step) :
    ((start parser).run steps).1.map (·.step) = steps ∧
      (∀ earlier query answer later,
        ((start parser).run steps).1 = earlier ++ .parsed query answer :: later →
          answer = parser.parse query) ∧
      (∀ earlier entry label later,
        ((start parser).run steps).1 = earlier ++ .minted entry label :: later →
          label = entry.label (uses entry.kind entry.id earlier)) ∧
      (∀ earlier query failure,
        ((start parser).run steps).1 = earlier ++ [.parsed query (.error failure)] →
          ((start parser).run steps).2.labels = .fresh) ∧
      ∀ earlier query failure entry label later,
        ((start parser).run steps).1 =
            earlier ++ .parsed query (.error failure) :: .minted entry label :: later →
          label = entry.label 0 := by
  have assembled : Parser.ofSchema schema maxLength = .ok (start parser).parser := assembled
  have follows : ∀ {earlier event later}, ((start parser).run steps).1 = earlier ++ event :: later →
      event.Follows parser earlier := fun split =>
    (accounts_start parser).follows_of_run assembled steps split
  -- A query that fails leaves the labels fresh.
  have unused : ∀ kind id earlier query failure,
      uses kind id (earlier ++ [.parsed query (.error failure)]) = 0 := by
    intro kind id earlier query failure
    rw [uses_concat]
    rfl
  refine ⟨step_run _ steps, fun _ _ _ _ split => follows split, fun _ _ _ _ split => follows split,
    fun earlier query failure last => ?_, fun earlier query failure entry label later split => ?_⟩
  · have accounts := (accounts_start parser).run assembled steps
    rw [List.nil_append, last] at accounts
    have counters : ((start parser).run steps).2.labels.used = Labels.fresh.used := by
      funext kind id
      rw [accounts kind id, unused]
      rfl
    exact congrArg Labels.mk counters
  · rw [List.append_cons] at split
    have label := follows split
    rwa [Event.Follows, unused] at label

def townSteps : List Step :=
  let person := Step.mint (.ofType .node ⟨1, "Person", some "People", [⟨"name"⟩, ⟨"age"⟩]⟩)
  [person, .parse "Person that likes People", person, .parse "Person that", person]

theorem events_of_run_town :
    Parser.ofSchema Parser.townSchema Parser.defaultMaxLength = .ok Parser.townParser ∧
      (((start Parser.townParser).run townSteps).1.filterMap fun
        | .minted _ label => some label
        | _ => none) = ["n1_0", "n1_2", "n1_0"] ∧
      ((start Parser.townParser).run townSteps).1.map (·.step) = townSteps ∧
      (∀ earlier query answer later,
        ((start Parser.townParser).run townSteps).1 = earlier ++ .parsed query answer :: later →
          answer = Parser.townParser.parse query) ∧
      (∀ earlier entry label later,
        ((start Parser.townParser).run townSteps).1 = earlier ++ .minted entry label :: later →
          label = entry.label (uses entry.kind entry.id earlier)) ∧
      (∀ earlier query failure,
        ((start Parser.townParser).run townSteps).1 = earlier ++ [.parsed query (.error failure)] →
          ((start Parser.townParser).run townSteps).2.labels = .fresh) ∧
      ∀ earlier query failure entry label later,
        ((start Parser.townParser).run townSteps).1 =
            earlier ++ .parsed query (.error failure) :: .minted entry label :: later →
          label = entry.label 0 :=
  ⟨Parser.ofSchema_town, by decide +kernel, events_of_run Parser.ofSchema_town townSteps⟩

end GraphQuery.Session
