import GraphQuery.Proofs.Query.Summaries

/-! Runs that come to their end.

No place that a run computes is missing in the text, and each round of a loop leaves less of it. So a parser
that checks all of this answers as one that does not. -/

set_option autoImplicit false

namespace GraphQuery.Query

open Text Grammar

/-! Failures. -/

def Normalized.columnAt (query : Normalized) (offset : Nat) : Except Crash Nat :=
  match splitAtByte? offset query.text with
  | some (before, _) => .ok (query.column before.length)
  | none => .error .misplaced

def Record.message (record : Record) (rest : List Char) : String :=
  let unexpected := "unexpected " ++ Furthest.found ⟨rest, []⟩
  if record.expected = [] then unexpected
  else unexpected ++ ", expected one of: " ++ ", ".intercalate record.expected

def Record.failure (record : Record) (query : Normalized) : Except Crash Failure := do
  let column ← query.columnAt record.offset
  match splitAtByte? record.offset query.text with
  | some (_, rest) => .ok (.mismatch (record.message rest) column record.expected)
  | none => .error .misplaced

theorem Record.Agrees.failure_eq {query : Normalized} {record : Record} {furthest : Furthest}
    (agrees : record.Agrees query.text furthest) :
    record.failure query = .ok (furthest.failure query) := by
  have place : record.offset = byteLength query.text - byteLength furthest.rest := by
    have := agrees.offset
    omega
  have split := splitAtByte?_of_suffix agrees.ahead
  rw [← place] at split
  have message : record.message furthest.rest = furthest.message := by
    rw [Record.message, Furthest.message, agrees.expected]
    simp [Furthest.found]
  have before : (query.text.take (query.text.length - furthest.rest.length)).length =
      query.text.length - furthest.rest.length := by
    rw [List.length_take]
    omega
  rw [Record.failure, Normalized.columnAt, split]
  show Except.ok _ = _
  rw [message, before, agrees.expected, Furthest.failure]

end GraphQuery.Query

namespace GraphQuery.Parser

open Query Text

/-! Answers. -/

/-- Parses a query with a record of what is expected, which is looked up if the query is refused. -/
def run (parser : Parser) (query : String) : Except Crash (Except Failure Plan) :=
  let typed := query.toList
  if parser.maxLength < typed.length then .ok (.error (.tooLong typed.length parser.maxLength))
  else
    let normalized := Normalized.ofQuery typed
    if normalized.text = [] then .ok (.ok ∅)
    else do
      let (reading, recorder) ← Recording.tree parser.grammar normalized.text (.ofText normalized.text)
      match reading with
      | none =>
        let failure ← recorder.record.failure normalized
        pure (.error failure)
      | some (tree, _) =>
        match Plan.ofTree parser.grammar tree .fresh with
        | .ok (plan, _) => pure (.ok plan)
        | .error (fault, _) => pure (.error (.grammar fault.message))

theorem run_eq_parse (parser : Parser) (query : String) : parser.run query = .ok (parser.parse query) := by
  unfold run parse parseFrom
  by_cases long : parser.maxLength < query.toList.length
  · simp [long]
  simp only [if_neg long]
  unfold parseNormalized
  by_cases empty : (Normalized.ofQuery query.toList).text = []
  · simp [empty]
  simp only [if_neg empty]
  obtain ⟨after, ran, _, agrees⟩ := exists_run_tree parser.grammar (Normalized.ofQuery query.toList).text
  rw [ran]
  cases (tree parser.grammar (Normalized.ofQuery query.toList).text).result with
  | none =>
    show (do let failure ← Record.failure _ _; pure _) = _
    rw [agrees.failure_eq]
    rfl
  | some reading =>
    simp only [Except.bind, bind]
    rcases Plan.ofTree parser.grammar reading.1 .fresh with ⟨_, _⟩ | ⟨_, _⟩ <;> rfl

end GraphQuery.Parser

namespace GraphQuery.Query

open Text Grammar

/-! Loops. -/

inductive Round (grammar : Grammar) : {α : Type} → Recording α → Prop where
  | property (entry : TypeEntry) : Round grammar do
      Recording.listSeparator
      Recording.property entry
  | condition (entry : TypeEntry) : Round grammar (Recording.joined (Recording.condition grammar entry))
  | facet (entry : TypeEntry) : Round grammar (Recording.joined (Recording.nodeFacet grammar entry))
  | hop : Round grammar (Recording.hop grammar)

variable {grammar : Grammar} {text rest : List Char} {recorder after : Recorder}

theorem Tracks.suffix {α : Type} {recording : Recording α} {matcher : Matcher α}
    (tracks : Tracks recording matcher) (covers : recorder.Covers text) {value : α}
    (ran : recording text recorder = .ok (some (value, rest), after)) :
    matcher.read? text = some (value, rest) ∧ rest <:+ text := by
  rw [tracks.run covers] at ran
  have read : matcher.read? text = some (value, rest) := (Prod.mk.inj (Except.ok.inj ran)).1
  exact ⟨read, tracks.forward.rest read⟩

theorem Round.shorter {α : Type} {recording : Recording α} (round : Round grammar recording)
    (covers : recorder.Covers text) {value : α}
    (ran : recording text recorder = .ok (some (value, rest), after)) :
    rest <:+ text ∧ rest.length < text.length := by
  cases round with
  | property entry =>
    have tracks : Tracks _ _ := .bind Recording.tracks_listSeparator fun _ => Recording.tracks_property entry
    obtain ⟨read, suffix⟩ := tracks.suffix covers ran
    exact ⟨suffix, Recording.length_lt_of_nextProperty read⟩
  | condition entry =>
    obtain ⟨read, suffix⟩ := (Recording.tracks_joined Recording.tracks_condition).suffix covers ran
    exact ⟨suffix, Recording.length_lt_of_joined forward_condition read⟩
  | facet entry =>
    obtain ⟨read, suffix⟩ := (Recording.tracks_joined Recording.tracks_nodeFacet).suffix covers ran
    exact ⟨suffix, Recording.length_lt_of_joined forward_nodeFacet read⟩
  | hop =>
    obtain ⟨read, suffix⟩ := Recording.tracks_hop.suffix covers ran
    exact ⟨suffix, Recording.length_lt_of_hop read⟩

/-! All runs. -/

/-- No run crashes. What a run leaves begins between two characters of the text. Where a fixed word is found
by comparing letters, as many ASCII characters as it has bytes come first. Each round of a loop leaves less
text. So every query is answered, and the answer is that of the parser. -/
theorem safe_runs (grammar : Grammar) :
    (∀ {α : Type} {recording : Recording α} {matcher : Matcher α},
      Production grammar recording matcher → ∀ (text : List Char) (recorder : Recorder),
        recorder.Covers text → ∃ after, recording text recorder = .ok ((matcher text).result, after) ∧
          ∀ value rest, (matcher text).result = some (value, rest) → ∃ read,
            splitAtByte? (byteLength text - byteLength rest) text = some (read, rest)) ∧
    (∀ word ∈ fixedWords, ∀ text, beginsLike word.toList text = true → ∃ found rest,
      splitAtByte? (byteLength word.toList) text = some (found, rest) ∧
        found.length = byteLength word.toList ∧ ∀ c ∈ found, c.toNat < 0x80) ∧
    (∀ {α : Type} {recording : Recording α}, Round grammar recording →
      ∀ (text rest : List Char) (recorder after : Recorder) (value : α), recorder.Covers text →
        recording text recorder = .ok (some (value, rest), after) →
          rest <:+ text ∧ rest.length < text.length) ∧
    ∀ (maxLength : Nat) (query : String),
      Parser.run ⟨grammar, maxLength⟩ query = .ok (Parser.parse ⟨grammar, maxLength⟩ query) := by
  refine ⟨fun production text recorder covers => ?_, fun word fixed text alike => ?_,
    fun round text rest recorder after value covers ran => ?_, fun maxLength query => ?_⟩
  · refine ⟨_, production.tracks.run covers, fun value rest read => ?_⟩
    exact ⟨_, splitAtByte?_of_suffix (production.tracks.forward.rest read)⟩
  · have plain := (plain_of_mem_fixedWords fixed).2
    exact ⟨_, _, splitAtByte?_of_beginsLike plain alike, (ascii_of_beginsLike plain alike).2⟩
  · exact round.shorter covers ran
  · exact Parser.run_eq_parse ⟨grammar, maxLength⟩ query

/-- A query in which the sign for kelvin stands where a `k` would be, a word in capitals, and one round of
a loop. -/
theorem safe_runs_town :
    let grammar := Grammar.ofTypes Parser.townSchema
    let person := TypeEntry.ofType .node (Parser.townSchema.nodeTypes.head (by decide))
    let next : Recording String := do
      Recording.listSeparator
      Recording.property person
    (∃ after, Recording.tree grammar "People who li\u212ae".toList (.ofText "People who li\u212ae".toList) =
        .ok (none, after)) ∧
      (∃ found rest, splitAtByte? 4 "WITH a".toList = some (found, rest) ∧ found.length = 4) ∧
      (∃ rest after, next ", age of".toList (.ofText ", age of".toList) = .ok (some ("age", rest), after) ∧
        rest.length < 8) ∧
      ∃ failure, Parser.run ⟨grammar, 20⟩ "People who li\u212ae" = .ok (.error failure) := by
  intro grammar person next
  obtain ⟨sound, words, rounds, parses⟩ := safe_runs grammar
  refine ⟨?_, ?_, ?_, ?_⟩
  · obtain ⟨after, ran, _⟩ := sound .tree "People who li\u212ae".toList _ (Recorder.covers_ofText _)
    have refused : (tree grammar "People who li\u212ae".toList).result = none := by decide +kernel
    exact ⟨after, ran.trans (by rw [refused])⟩
  · obtain ⟨found, rest, split, size, _⟩ := words "with" (by decide) "WITH a".toList (by decide +kernel)
    have bytes : byteLength "with".toList = 4 := by decide +kernel
    rw [bytes] at split size
    exact ⟨found, rest, split, size⟩
  · have read : ((next ", age of".toList (.ofText ", age of".toList)).toOption.bind (·.1)).map (·.1) =
        some "age" := by decide +kernel
    obtain ⟨⟨_, rest⟩, found, rfl⟩ := Option.map_eq_some_iff.mp read
    obtain ⟨⟨_, after⟩, ran, rfl⟩ := Option.bind_eq_some_iff.mp found
    have ran := Parser.eq_ok_of_toOption ran
    exact ⟨rest, after, ran, (rounds (.property person) _ _ _ _ _ (Recorder.covers_ofText _) ran).2⟩
  · have refused : (Parser.parse ⟨grammar, 20⟩ "People who li\u212ae").toOption = none := by decide +kernel
    rw [parses]
    cases answer : Parser.parse ⟨grammar, 20⟩ "People who li\u212ae" with
    | error failure => exact ⟨failure, rfl⟩
    | ok plan => simp [answer, Except.toOption] at refused

end GraphQuery.Query
