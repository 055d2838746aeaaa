import GraphQuery.Proofs.Outcomes
import GraphQuery.Proofs.Query.Columns

/-! Whitespace outside literals: one run of it may be replaced by any other.

Up to the run the reader does the same for both queries, since it looks ahead for quotes only. Across
the run it comes to the same state, and from there on all columns differ by the same amount. -/

set_option autoImplicit false

namespace GraphQuery.Query.Normalized

open Text

def Reader.behind (after : List Char) (reader : Reader) (column : Nat) : List Char → Reader
  | [] => reader
  | c :: before => (reader.next column c (before ++ after)).behind after (column + 1) before

def Reader.across (column : Nat) (run : List Char) : Reader → Reader
  | .word => if run = [] then .word else .gap column
  | reader => reader

/-- A query with one of its runs of whitespace and what replaces it. -/
structure Respacing where
  before : List Char
  run : List Char
  other : List Char
  after : List Char
  run_ne_nil : run ≠ []
  run_spaces : ∀ c ∈ run, isWhitespace c = true
  other_spaces : ∀ c ∈ other, isWhitespace c = true
  /-- Only at the ends of a query a run may vanish. -/
  other_ne_nil : before ≠ [] → after ≠ [] → other ≠ []
  /-- No literal is open where the run begins. -/
  outside : ∀ quote, Reader.behind (run ++ after) .start 0 before ≠ .literal quote

namespace Respacing

def typed (respacing : Respacing) : List Char :=
  respacing.before ++ (respacing.run ++ respacing.after)

def respaced (respacing : Respacing) : List Char :=
  respacing.before ++ (respacing.other ++ respacing.after)

end Respacing

/-! Columns beyond an edge, moved along with it. -/

def moveColumn (edge target column : Nat) : Nat :=
  if edge ≤ column then column - edge + target else column

def movePlaced (edge target : Nat) (placed : Placed) : Placed :=
  { placed with column := moveColumn edge target placed.column }

def Reader.moved (edge target : Nat) : Reader → Reader
  | .gap begun => .gap (moveColumn edge target begun)
  | reader => reader

section Moving
variable {edge target column : Nat} {c : Char} {typed rest : List Char} {reader : Reader}

theorem moveColumn_of_lt (before : column < edge) : moveColumn edge target column = column :=
  if_neg (Nat.not_le.mpr before)

theorem moveColumn_add (distance : Nat) :
    moveColumn edge target (edge + distance) = target + distance := by
  rw [moveColumn, if_pos (Nat.le_add_right edge distance)]
  omega

theorem moved_of_lt (before : ∀ start, reader = .gap start → start < edge) :
    reader.moved edge target = reader := by
  cases reader with
  | gap start => exact congrArg Reader.gap (moveColumn_of_lt (before start rfl))
  | start | word | literal => rfl

theorem kept_moved : (reader.moved edge target).kept (moveColumn edge target column) c =
    (reader.kept column c).map (movePlaced edge target) := by
  cases reader <;> simp only [Reader.moved, Reader.kept] <;> (try split) <;> rfl

theorem next_moved : (reader.moved edge target).next (moveColumn edge target column) c rest =
    (reader.next column c rest).moved edge target := by
  have unmoved : (Reader.afterFirst c rest).moved edge target = .afterFirst c rest :=
    moved_of_lt fun _ state => absurd state afterFirst_ne_gap
  cases reader <;> simp only [Reader.moved, Reader.next] <;> split <;>
    first | rfl | exact unmoved.symm

theorem keep_moved (distance : Nat) :
    keep (reader.moved edge target) (target + distance) typed =
      (keep reader (edge + distance) typed).map (movePlaced edge target) := by
  induction typed generalizing reader distance with
  | nil => simp
  | cons c rest ih =>
    rw [keep_cons, keep_cons, List.map_append, ← kept_moved, Nat.add_assoc, Nat.add_assoc,
      ← ih (distance + 1), ← next_moved, moveColumn_add]

end Moving

/-! Across a run of whitespace. -/

section Spaces
variable {column : Nat} {c : Char} {run rest more : List Char} {reader : Reader}

theorem keep_spaces (spaces : ∀ c ∈ run, isWhitespace c = true)
    (outside : ∀ quote, reader ≠ .literal quote) :
    keep reader column (run ++ rest) = keep (reader.across column run) (column + run.length) rest := by
  induction run generalizing reader column with
  | nil => cases reader <;> rfl
  | cons c run ih =>
    obtain ⟨space, others⟩ := List.forall_mem_cons.mp spaces
    have passed : ∀ {later : Reader}, (∀ quote, later ≠ .literal quote) →
        keep later (column + 1) (run ++ rest) =
          keep (later.across (column + 1) run) (column + (c :: run).length) rest := fun outside => by
      rw [ih others outside, List.length_cons]
      congr 1
      omega
    rw [List.cons_append, keep_cons]
    cases reader with
    | literal quote => exact absurd rfl (outside quote)
    | start | word | gap =>
      simp only [Reader.kept, Reader.next, space, if_true, List.nil_append]
      exact passed (by simp)

/-- The reader looks ahead for quotes only. -/
theorem next_congr (quotes : ∀ quote, isQuote quote = true → (quote ∈ rest ↔ quote ∈ more)) :
    reader.next column c rest = reader.next column c more := by
  have same : Reader.afterFirst c rest = .afterFirst c more := by
    unfold Reader.afterFirst
    cases opener : isQuote c with
    | false => rfl
    | true => simp only [Bool.true_and, List.contains_iff_mem, quotes c opener]
  cases reader <;> simp only [Reader.next, same]

theorem mem_of_quote {quote : Char} (opener : isQuote quote = true)
    (spaces : ∀ c ∈ run, isWhitespace c = true) (before after : List Char) :
    quote ∈ before ++ (run ++ after) ↔ quote ∈ before ∨ quote ∈ after := by
  have visible : quote ∉ run := fun member => by
    simpa [isWhitespace_of_isQuote opener] using spaces quote member
  simp [visible]

theorem across_eq_gap {start : Nat} (state : reader.across column run = .gap start) :
    run ≠ [] ∧ start = column ∨ reader = .gap start := by
  cases reader with
  | word =>
    simp only [Reader.across] at state
    split at state
    · cases state
    · next nonempty => exact .inl ⟨nonempty, (Reader.gap.inj state).symm⟩
  | start | gap | literal => exact .inr state

end Spaces

section Run
variable {before run other after : List Char} {column edge target : Nat} {reader : Reader}

/-- What is kept of one query is kept of the other. -/
theorem keep_respaced (runSpaces : ∀ c ∈ run, isWhitespace c = true)
    (otherSpaces : ∀ c ∈ other, isWhitespace c = true)
    (begun : ∀ start, reader = .gap start → start < column)
    (outside : ∀ quote, reader.behind (run ++ after) column before ≠ .literal quote)
    (joins : after = [] ∨ ∀ place, (reader.behind (run ++ after) column before).across place run =
      (reader.behind (run ++ after) column before).across place other)
    (atEdge : edge = column + before.length + run.length)
    (atTarget : target = column + before.length + other.length) :
    keep reader column (before ++ (other ++ after)) =
      (keep reader column (before ++ (run ++ after))).map (movePlaced edge target) := by
  -- On what stands before the run. No gap begins beyond the present column.
  induction before generalizing reader column with
  | nil =>
    simp only [Reader.behind] at outside joins
    rw [List.nil_append, List.nil_append, keep_spaces runSpaces outside, keep_spaces otherSpaces outside]
    rcases joins with rfl | joins
    · simp
    · have unmoved : (reader.across column run).moved edge target = reader.across column run :=
        moved_of_lt fun start state => by
          rcases across_eq_gap state with ⟨nonempty, rfl⟩ | earlier
          · have := List.length_pos_iff.mpr nonempty
            omega
          · have := begun start earlier
            omega
      have later : keep ((reader.across column run).moved edge target) (target + 0) after =
          (keep (reader.across column run) (edge + 0) after).map (movePlaced edge target) :=
        keep_moved 0
      rw [unmoved] at later
      rw [← joins column]
      simpa [atEdge, atTarget] using later
  | cons c before ih =>
    simp only [Reader.behind] at outside joins
    rw [List.length_cons] at atEdge atTarget
    have inside : column < edge := by omega
    have kept : (reader.kept column c).map (movePlaced edge target) = reader.kept column c := by
      rw [← kept_moved, moveColumn_of_lt inside,
        moved_of_lt fun start state => Nat.lt_trans (begun start state) inside]
    have quotes : ∀ quote, isQuote quote = true →
        (quote ∈ before ++ (other ++ after) ↔ quote ∈ before ++ (run ++ after)) := fun quote opener =>
      (mem_of_quote opener otherSpaces before after).trans (mem_of_quote opener runSpaces before after).symm
    rw [List.cons_append, List.cons_append, keep_cons, keep_cons, List.map_append, kept,
      next_congr quotes]
    rw [ih (fun start state => ?_) outside joins (by omega) (by omega)]
    obtain ⟨_, same | earlier⟩ := next_eq_gap state
    · omega
    · exact Nat.lt_succ_of_lt (begun start earlier)

/-- Inside the run nothing is kept but a space at its start. -/
theorem column_of_mem_keep {placed : Placed} (runSpaces : ∀ c ∈ run, isWhitespace c = true)
    (begun : ∀ start, reader = .gap start → start < column)
    (outside : ∀ quote, reader.behind (run ++ after) column before ≠ .literal quote)
    (member : placed ∈ keep reader column (before ++ (run ++ after))) :
    placed.column ≤ column + before.length ∨ column + before.length + run.length ≤ placed.column := by
  induction before generalizing reader column with
  | nil =>
    simp only [Reader.behind] at outside
    rw [List.nil_append, keep_spaces runSpaces outside] at member
    rcases le_column_of_mem_keep member with beyond | state
    · exact .inr beyond
    · -- The space of a gap stands where the run begins or where the gap has begun before.
      rcases across_eq_gap state with ⟨_, same⟩ | earlier
      · exact .inl (Nat.le_of_eq same)
      · exact .inl (Nat.le_of_lt (begun _ earlier))
  | cons c before ih =>
    simp only [Reader.behind] at outside
    rw [List.cons_append, keep_cons, List.mem_append] at member
    rw [List.length_cons]
    rcases member with now | later
    · rcases mem_kept now with rfl | ⟨start, state, rfl⟩
      · exact .inl (Nat.le_add_right _ _)
      · exact .inl (Nat.le_add_right_of_le (Nat.le_of_lt (begun start state)))
    · have bounds := ih (fun start state => ?_) outside later
      · omega
      · obtain ⟨_, same | earlier⟩ := next_eq_gap state
        · omega
        · exact Nat.lt_succ_of_lt (begun start earlier)

end Run

namespace Respacing

variable (respacing : Respacing)

/-- Behind the run a column is shifted by the change of its length. -/
def Shifted (column other : Nat) : Prop :=
  column ≤ respacing.before.length + 1 ∧ other = column ∨
    respacing.before.length + respacing.run.length < column ∧
      other + respacing.run.length = column + respacing.other.length

theorem placed_respaced : (ofQuery respacing.respaced).placed =
    (ofQuery respacing.typed).placed.map
      (movePlaced (respacing.before.length + respacing.run.length)
        (respacing.before.length + respacing.other.length)) := by
  refine keep_respaced respacing.run_spaces respacing.other_spaces (fun start state => by cases state)
    respacing.outside ?_ (by omega) (by omega)
  by_cases trailing : respacing.after = []
  · exact .inl trailing
  · refine .inr fun place => ?_
    by_cases leading : respacing.before = []
    · rw [leading]
      rfl
    · -- Between two words neither run is empty.
      have filled := respacing.other_ne_nil leading trailing
      cases Reader.behind (respacing.run ++ respacing.after) .start 0 respacing.before <;>
        simp [Reader.across, filled, respacing.run_ne_nil]

theorem text_respaced : (ofQuery respacing.respaced).text = (ofQuery respacing.typed).text := by
  rw [text, text, placed_respaced, List.map_map]
  rfl

theorem place_of_mem {placed : Placed} (member : placed ∈ (ofQuery respacing.typed).placed) :
    placed.column ≤ respacing.before.length ∨
      respacing.before.length + respacing.run.length ≤ placed.column := by
  simpa using column_of_mem_keep respacing.run_spaces (fun start state => by cases state)
    respacing.outside member

/-- What is kept last is no whitespace, so it does not stand for the run. -/
theorem place_of_last {last : Placed} (found : (ofQuery respacing.typed).placed.getLast? = some last) :
    last.column < respacing.before.length ∨
      respacing.before.length + respacing.run.length ≤ last.column := by
  have spoken : (ofQuery respacing.typed).text ≠ [] := fun empty => by
    rw [text, List.map_eq_nil_iff] at empty
    simp [empty] at found
  obtain ⟨before, c, after, split, visible, _, place⟩ := exists_end spoken
  simp only [endColumn, found, Nat.add_right_cancel_iff] at place
  rcases respacing.place_of_mem (List.mem_of_getLast? found) with early | late
  · -- Where the run begins there is whitespace.
    refine .inl (Nat.lt_of_le_of_ne early fun same => ?_)
    obtain ⟨space, more, run⟩ := List.exists_cons_of_ne_nil respacing.run_ne_nil
    have here : respacing.typed[respacing.before.length]? = some space := by simp [typed, run]
    have there : respacing.typed[before.length]? = some c := by simp [split]
    rw [← place, same, here, Option.some.injEq] at there
    exact absurd (respacing.run_spaces space (by simp [run])) (by simp [there, visible])
  · exact .inr late

theorem shifted_column (spoken : (ofQuery respacing.typed).text ≠ []) (index : Nat) :
    respacing.Shifted ((ofQuery respacing.typed).column index)
      ((ofQuery respacing.respaced).column index) := by
  have nonempty := List.length_pos_iff.mpr respacing.run_ne_nil
  have columns := respacing.placed_respaced
  cases found : (ofQuery respacing.typed).placed[index]? with
  | some placed =>
    have outside := respacing.place_of_mem (List.mem_of_getElem? found)
    simp only [column, columns, List.getElem?_map, found, Option.map_some, Shifted, movePlaced,
      moveColumn]
    split <;> omega
  | none =>
    -- Beyond the text the column is that of its end, right behind the last character.
    have kept : (ofQuery respacing.typed).placed ≠ [] := fun empty =>
      spoken (by rw [text, empty, List.map_nil])
    have last := List.getLast?_eq_some_getLast kept
    have outside := respacing.place_of_last last
    simp only [column, endColumn, columns, List.getElem?_map, found, Option.map_none,
      List.getLast?_map, last, Option.map_some, Shifted, movePlaced, moveColumn]
    split <;> omega

end Respacing
end Normalized

open Normalized

/-- A run of whitespace outside literals says nothing: with any other in its place a query has the same
text and, if both fit, the same plan or the same mismatch. Only a place behind the run is shifted. -/
theorem answers_of_respacing {schema : Schema} {maxLength : Nat} {parser : Parser}
    (assembled : Parser.ofSchema schema maxLength = .ok parser) (respacing : Respacing) :
    (ofQuery respacing.respaced).text = (ofQuery respacing.typed).text ∧
      (respacing.typed.length ≤ maxLength → respacing.respaced.length ≤ maxLength →
        (∃ plan, parser.parse (.ofList respacing.typed) = .ok plan ∧
            parser.parse (.ofList respacing.respaced) = .ok plan) ∨
          ∃ message column other expected,
            parser.parse (.ofList respacing.typed) = .error (.mismatch message column expected) ∧
              parser.parse (.ofList respacing.respaced) = .error (.mismatch message other expected) ∧
                respacing.Shifted column other) := by
  have text := respacing.text_respaced
  refine ⟨text, fun fits respacedFits => ?_⟩
  obtain ⟨_, rfl⟩ := Parser.ofSchema_eq_ok.mp assembled
  have same : (ofQuery (String.ofList respacing.respaced).toList).text =
      (ofQuery (String.ofList respacing.typed).toList).text := by
    rw [String.toList_ofList, String.toList_ofList, text]
  rcases Parser.answers_of_same_text ⟨Grammar.ofTypes schema, maxLength⟩ same (by simpa using fits)
    (by simpa using respacedFits) with answered | ⟨spoken, message, index, expected, _, failed, failed'⟩
  · exact .inl answered
  · rw [String.toList_ofList] at spoken failed failed'
    exact .inr ⟨_, _, _, _, failed, failed', respacing.shifted_column spoken index⟩

def townRespacing : Respacing where
  before := "Person with age 'a  b'".toList
  run := "   ".toList
  other := "\n".toList
  after := "xyz".toList
  run_ne_nil := by decide
  run_spaces := List.all_eq_true.mp (by decide)
  other_spaces := List.all_eq_true.mp (by decide)
  other_ne_nil := by decide
  outside := by
    have state : Reader.behind "   xyz".toList .start 0 "Person with age 'a  b'".toList = .word := by
      decide +kernel
    intro quote
    exact state ▸ Reader.noConfusion

theorem answers_of_respacing_town :
    Parser.ofSchema Parser.townSchema Parser.defaultMaxLength = .ok Parser.townParser ∧
      townRespacing.typed.length ≤ Parser.defaultMaxLength ∧
      townRespacing.respaced.length ≤ Parser.defaultMaxLength ∧
      (ofQuery townRespacing.respaced).text = (ofQuery townRespacing.typed).text ∧
      ∃ message expected,
        Parser.townParser.parse "Person with age 'a  b'   xyz" = .error (.mismatch message 26 expected) ∧
          Parser.townParser.parse "Person with age 'a  b'\nxyz" =
            .error (.mismatch message 24 expected) := by
  have fits : townRespacing.typed.length ≤ Parser.defaultMaxLength := by decide
  have respacedFits : townRespacing.respaced.length ≤ Parser.defaultMaxLength := by decide
  obtain ⟨text, answers⟩ := answers_of_respacing Parser.ofSchema_town townRespacing
  refine ⟨Parser.ofSchema_town, fits, respacedFits, text, ?_⟩
  have place : (match Parser.townParser.parse (.ofList townRespacing.typed) with
      | .error (.mismatch _ column _) => some column
      | _ => none) = some 26 := by
    decide +kernel
  have back : ∀ other, townRespacing.Shifted 26 other → other = 24 := by
    have lengths : townRespacing.before.length = 22 ∧ townRespacing.run.length = 3 ∧
        townRespacing.other.length = 1 := by decide
    intro other shifted
    unfold Respacing.Shifted at shifted
    omega
  have spelled : String.ofList townRespacing.typed = "Person with age 'a  b'   xyz" := by decide
  have respelled : String.ofList townRespacing.respaced = "Person with age 'a  b'\nxyz" := by decide
  rw [← spelled, ← respelled]
  rcases answers fits respacedFits with ⟨plan, parsed, _⟩ | ⟨message, column, other, expected, failed,
    failed', shifted⟩
  · rw [parsed] at place
    cases place
  · rw [failed] at place
    obtain rfl := Option.some.inj place
    obtain rfl := back other shifted
    exact ⟨message, expected, failed, failed'⟩

end GraphQuery.Query
