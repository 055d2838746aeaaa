import GraphQuery.Proofs.Query.Furthest
import GraphQuery.Proofs.Text.Bytes

/-! Matchers that keep their record while they run.

A place is a number of bytes here, and a run ends early if it computes one that does not exist. What
a matcher writes into its log, its recording reports when it happens, unless it is quiet. -/

set_option autoImplicit false

namespace GraphQuery.Query

open Text

/-- The furthest place at which something was expected, and what was expected there. -/
structure Record where
  offset : Nat := 0
  expected : List String := []
  deriving DecidableEq, Repr

def Record.note (record : Record) (offset : Nat) (what : String) : Record :=
  let reached := if record.offset < offset then { offset } else record
  if offset = reached.offset ∧ what ∉ reached.expected then
    { reached with expected := reached.expected ++ [what] }
  else reached

structure Recorder where
  /-- How many bytes there are in the whole text. -/
  size : Nat
  record : Record := {}
  /-- How many lookaheads are under way. -/
  quiet : Nat := 0
  /-- All that was reported, from the first report on. No run looks at it. -/
  reports : List (Nat × String) := []
  deriving DecidableEq, Repr

/-- What a run does not survive. -/
inductive Crash where
  /-- A number below zero. -/
  | underflow
  /-- A place inside a character or beyond the end. -/
  | misplaced
  /-- A loop that goes on although nothing was read. -/
  | standstill
  deriving DecidableEq, Repr

abbrev Run := StateT Recorder (Except Crash)

/-! Reports. -/

namespace Recorder

def report (recorder : Recorder) (offset : Nat) (what : String) : Recorder :=
  { recorder with
    record := recorder.record.note offset what
    reports := recorder.reports ++ [(offset, what)] }

def note (recorder : Recorder) : Event → Recorder
  | .accepted _ => recorder
  | .expected rest what =>
    if 0 < recorder.quiet then recorder
    else recorder.report (recorder.size - byteLength rest) what.describe

def noteAll (recorder : Recorder) (log : List Event) : Recorder :=
  log.foldl note recorder

/-- A report about this text is not made, or there is a place for it. -/
def Covers (recorder : Recorder) (text : List Char) : Prop :=
  0 < recorder.quiet ∨ byteLength text ≤ recorder.size

end Recorder

/-- Reports what is expected at the start of a text, except in a lookahead. -/
def expect (text : List Char) (what : Expectation) : Run Unit := fun recorder =>
  if 0 < recorder.quiet then .ok ((), recorder)
  else if recorder.size < byteLength text then .error .underflow
  else .ok ((), recorder.report (recorder.size - byteLength text) what.describe)

def lower : Run Unit := fun recorder =>
  match recorder.quiet with
  | 0 => .error .underflow
  | quiet + 1 => .ok ((), { recorder with quiet })

def quietly {α : Type} (run : Run α) : Run α := do
  modify fun recorder => { recorder with quiet := recorder.quiet + 1 }
  let result ← run
  lower
  pure result

def cut (place : Nat) (text : List Char) : Run (List Char × List Char) :=
  match splitAtByte? place text with
  | some split => pure split
  | none => throw .misplaced

def Recording (α : Type) : Type :=
  List Char → Run (Option (Reading α))

namespace Recording

variable {α β : Type}

def pure (value : α) : Recording α :=
  fun text => Pure.pure (some (value, text))

def bind (first : Recording α) (next : α → Recording β) : Recording β :=
  fun text => do
    match ← first text with
    | none => Pure.pure none
    | some (value, rest) => next value rest

instance : Monad Recording where
  pure := pure
  bind := bind

def reject : Recording α :=
  fun _ => Pure.pure none

def ofReader (read? : List Char → Option (Reading α)) : Recording α :=
  fun text => Pure.pure (read? text)

def orExpect (recording : Recording α) (what : List Expectation) : Recording α :=
  fun text => do
    match ← recording text with
    | some reading => Pure.pure (some reading)
    | none =>
      forM what (expect text)
      Pure.pure none

def optional (recording : Recording α) : Recording (Option α) :=
  fun text => do
    match ← recording text with
    | some (value, rest) => Pure.pure (some (some value, rest))
    | none => Pure.pure (some (none, text))

def orElse (first second : Recording α) : Recording α :=
  fun text => do
    match ← first text with
    | some reading => Pure.pure (some reading)
    | none => second text

def firstOf : List (Recording α) → Recording α
  | [] => reject
  | first :: rest => orElse first (firstOf rest)

def runAll (recordings : List (Recording α)) (text : List Char) : Run (List (Option (Reading α))) :=
  match recordings with
  | [] => Pure.pure []
  | first :: rest => do
    let reading ← first text
    let others ← runAll rest text
    Pure.pure (reading :: others)

def furthestOf (recordings : List (Recording α)) : Recording α :=
  fun text => do
    let readings ← runAll recordings text
    Pure.pure (longest readings)

/-- Reads as often as possible. To go on without having read anything would be to go on forever. -/
def many (recording : Recording α) : Recording (List α) := fun text => do
  match ← recording text with
  | none => Pure.pure (some ([], text))
  | some (value, rest) =>
    if rest.length < text.length then
      let more ← many recording rest
      Pure.pure (more.map fun reading => (value :: reading.1, reading.2))
    else throw .standstill
termination_by text => text.length

def accepts (recording : Recording α) (text : List Char) : Run Bool := do
  let reading ← recording text
  Pure.pure reading.isSome

end Recording

/-! Runs. -/

section Runs
variable {α β : Type} {run : Run α} {next : α → Run β} {recorder after : Recorder} {value : α}

theorem run_bind (ran : run recorder = .ok (value, after)) :
    (run >>= next) recorder = next value after := by
  show Except.bind (run recorder) _ = _
  rw [ran]
  rfl

theorem cut_of_split {place : Nat} {text : List Char} {split : List Char × List Char}
    (found : splitAtByte? place text = some split) : cut place text recorder = .ok (split, recorder) := by
  rw [cut, found]
  rfl

/-- A lookahead that changes nothing while it is quiet changes nothing at all. -/
theorem quietly_eq (still : ∀ {recorder : Recorder}, 0 < recorder.quiet →
      run recorder = .ok (value, recorder)) (recorder : Recorder) :
    quietly run recorder = .ok (value, recorder) := by
  have raised : (modify fun recorder : Recorder => { recorder with quiet := recorder.quiet + 1 } :
      Run PUnit) recorder = .ok ((), { recorder with quiet := recorder.quiet + 1 }) := rfl
  rw [quietly, run_bind raised, run_bind (still (Nat.succ_pos recorder.quiet))]
  rfl

end Runs

namespace Recorder

variable {recorder : Recorder} {text rest : List Char} {event : Event} {log log' : List Event}

@[simp] theorem noteAll_append :
    recorder.noteAll (log ++ log') = (recorder.noteAll log).noteAll log' :=
  List.foldl_append

theorem note_of_quiet (quiet : 0 < recorder.quiet) : recorder.note event = recorder := by
  cases event with
  | accepted => rfl
  | expected => exact if_pos quiet

theorem noteAll_of_quiet (quiet : 0 < recorder.quiet) : recorder.noteAll log = recorder := by
  induction log with
  | nil => rfl
  | cons event log ih => rwa [noteAll, List.foldl_cons, note_of_quiet quiet]

@[simp] theorem quiet_note : (recorder.note event).quiet = recorder.quiet := by
  cases event with
  | accepted => rfl
  | expected =>
    rw [note]
    split <;> rfl

@[simp] theorem size_note : (recorder.note event).size = recorder.size := by
  cases event with
  | accepted => rfl
  | expected =>
    rw [note]
    split <;> rfl

@[simp] theorem quiet_noteAll : (recorder.noteAll log).quiet = recorder.quiet := by
  induction log generalizing recorder with
  | nil => rfl
  | cons event log ih => exact ih.trans quiet_note

@[simp] theorem size_noteAll : (recorder.noteAll log).size = recorder.size := by
  induction log generalizing recorder with
  | nil => rfl
  | cons event log ih => exact ih.trans size_note

@[simp] theorem covers_note : (recorder.note event).Covers text ↔ recorder.Covers text := by
  rw [Covers, quiet_note, size_note, Covers]

@[simp] theorem covers_noteAll : (recorder.noteAll log).Covers text ↔ recorder.Covers text := by
  rw [Covers, quiet_noteAll, size_noteAll, Covers]

theorem Covers.of_suffix (covers : recorder.Covers text) (suffix : rest <:+ text) :
    recorder.Covers rest :=
  covers.imp_right (Nat.le_trans (byteLength_le_of_suffix suffix))

end Recorder

theorem expect_eq {recorder : Recorder} {text : List Char} (covers : recorder.Covers text)
    (what : Expectation) : expect text what recorder = .ok ((), recorder.note (.expected text what)) := by
  rw [expect, Recorder.note]
  split
  · rfl
  · next loud =>
    have fits := covers.resolve_left loud
    rw [if_neg (Nat.not_lt.mpr fits)]

theorem forM_expect {recorder : Recorder} {text : List Char} (covers : recorder.Covers text)
    (what : List Expectation) :
    forM what (expect text) recorder = .ok ((), recorder.noteAll (what.map (.expected text))) := by
  induction what generalizing recorder with
  | nil => rfl
  | cons first others ih =>
    rw [List.forM_cons, run_bind (expect_eq covers first)]
    exact ih (Recorder.covers_note.mpr covers)

/-! Recordings of matchers. -/

def Reads {α : Type} (recording : Recording α) (read? : List Char → Option (Reading α)) : Prop :=
  ∀ (text : List Char) (recorder : Recorder), recording text recorder = .ok (read? text, recorder)

/-- Reads like a matcher, and reports what the matcher writes into its log. -/
structure Tracks {α : Type} (recording : Recording α) (matcher : Matcher α) : Prop where
  forward : matcher.Forward
  run : ∀ {text : List Char} {recorder : Recorder}, recorder.Covers text →
    recording text recorder = .ok ((matcher text).result, recorder.noteAll (matcher text).log)

section Recorded
variable {α β : Type} {recording second : Recording α} {matcher other : Matcher α}
  {next : α → Recording β} {goOn : α → Matcher β} {text : List Char} {recorder : Recorder}

theorem Reads.ofReader (read? : List Char → Option (Reading α)) : Reads (.ofReader read?) read? :=
  fun _ _ => rfl

theorem Reads.of_eq {read? other? : List Char → Option (Reading α)} (reads : Reads recording read?)
    (same : ∀ text, read? text = other? text) : Reads recording other? :=
  (funext same : read? = other?) ▸ reads

theorem Reads.replace {read? : List Char → Option (Reading α)} (reads : Reads recording read?)
    (value : β) :
    Reads (do let _ ← recording; Pure.pure value)
      (fun text => (read? text).map fun reading => (value, reading.2)) := by
  intro text recorder
  show Recording.bind recording _ text recorder = _
  rw [Recording.bind, run_bind (reads text recorder)]
  beta_reduce
  cases read? text <;> rfl

theorem Reads.orElse {read? other? : List Char → Option (Reading α)} (head : Reads recording read?)
    (tail : Reads second other?) :
    Reads (recording.orElse second) (fun text => read? text <|> other? text) := by
  intro text recorder
  rw [Recording.orElse, run_bind (head text recorder)]
  beta_reduce
  cases read? text with
  | some => rfl
  | none => exact tail text recorder

/-- In a lookahead nothing is reported, whatever the text is. -/
theorem Tracks.quiet (tracks : Tracks recording matcher) (quiet : 0 < recorder.quiet)
    (text : List Char) : recording text recorder = .ok ((matcher text).result, recorder) := by
  rw [tracks.run (.inl quiet), recorder.noteAll_of_quiet quiet]

theorem Tracks.accepts (tracks : Tracks recording matcher) (quiet : 0 < recorder.quiet)
    (text : List Char) : recording.accepts text recorder = .ok (matcher.accepts text, recorder) :=
  run_bind (tracks.quiet quiet text)

theorem Tracks.pure (value : α) :
    Tracks (Pure.pure value : Recording α) (Pure.pure value : Matcher α) where
  forward := .pure value
  run _ := rfl

theorem Tracks.reject : Tracks (Recording.reject : Recording α) .reject where
  forward := .reject
  run _ := rfl

theorem Tracks.piece {read? : List Char → Option (Reading α)} (reads : Reads recording read?)
    (what : List Expectation) (forward : (Matcher.piece what read?).Forward) :
    Tracks (recording.orExpect what) (.piece what read?) where
  forward := forward
  run {text recorder} covers := by
    rw [Recording.orExpect, run_bind (reads text recorder), Matcher.piece]
    cases read? text with
    | some reading => rfl
    | none =>
      simp only
      rw [run_bind (forM_expect covers what)]
      rfl

theorem Tracks.bind (head : Tracks recording matcher)
    (tail : ∀ value, Tracks (next value) (goOn value)) :
    Tracks (recording >>= next) (matcher >>= goOn) where
  forward := head.forward.bind fun value => (tail value).forward
  run {text recorder} covers := by
    show Recording.bind recording next text recorder = .ok ((Matcher.bind matcher goOn text).result, _)
    rw [Recording.bind, run_bind (head.run covers)]
    show _ = Except.ok (_, recorder.noteAll (Matcher.bind matcher goOn text).log)
    rw [Matcher.bind]
    rcases outcome : matcher text with ⟨_ | ⟨value, rest⟩, log⟩
    · rfl
    · have suffix : rest <:+ text := head.forward.rest (congrArg Outcome.result outcome)
      simp only [Recorder.noteAll_append]
      exact (tail value).run (Recorder.covers_noteAll.mpr (covers.of_suffix suffix))

theorem Tracks.optional (tracks : Tracks recording matcher) :
    Tracks recording.optional matcher.optional where
  forward := tracks.forward.optional
  run {text recorder} covers := by
    rw [Recording.optional, run_bind (tracks.run covers), Matcher.optional]
    rcases matcher text with ⟨_ | ⟨value, rest⟩, log⟩ <;> rfl

theorem Tracks.orElse (head : Tracks recording matcher) (tail : Tracks second other) :
    Tracks (recording.orElse second) (matcher.orElse other) where
  forward := head.forward.orElse tail.forward
  run {text recorder} covers := by
    rw [Recording.orElse, run_bind (head.run covers), Matcher.orElse]
    rcases matcher text with ⟨_ | reading, log⟩
    · simp only [Recorder.noteAll_append]
      exact tail.run (Recorder.covers_noteAll.mpr covers)
    · rfl

section Listed
variable {ι : Type} {items : List ι} {recordingOf : ι → Recording α} {matcherOf : ι → Matcher α}

theorem Tracks.firstOf (each : ∀ item ∈ items, Tracks (recordingOf item) (matcherOf item)) :
    Tracks (.firstOf (items.map recordingOf)) (.firstOf (items.map matcherOf)) := by
  induction items with
  | nil => exact .reject
  | cons first others ih =>
    obtain ⟨head, tail⟩ := List.forall_mem_cons.mp each
    exact head.orElse (ih tail)

theorem runAll_of_tracks (each : ∀ item ∈ items, Tracks (recordingOf item) (matcherOf item))
    (covers : recorder.Covers text) :
    Recording.runAll (items.map recordingOf) text recorder =
      .ok (items.map fun item => (matcherOf item text).result,
        recorder.noteAll (items.flatMap fun item => (matcherOf item text).log)) := by
  induction items generalizing recorder with
  | nil => rfl
  | cons first others ih =>
    obtain ⟨head, tail⟩ := List.forall_mem_cons.mp each
    rw [List.map_cons, Recording.runAll, run_bind (head.run covers),
      run_bind (ih tail (Recorder.covers_noteAll.mpr covers)), List.flatMap_cons,
      Recorder.noteAll_append]
    rfl

theorem Tracks.furthestOf (each : ∀ item ∈ items, Tracks (recordingOf item) (matcherOf item)) :
    Tracks (.furthestOf (items.map recordingOf)) (.furthestOf (items.map matcherOf)) where
  forward := .furthestOf (List.forall_mem_map.mpr fun item member => (each item member).forward)
  run {text recorder} covers := by
    rw [Recording.furthestOf, run_bind (runAll_of_tracks each covers)]
    simp [Matcher.furthestOf, Function.comp_def, List.flatMap_map]
    rfl

theorem Reads.furthestOf {readerOf : ι → List Char → Option (Reading α)}
    (each : ∀ item ∈ items, Reads (recordingOf item) (readerOf item)) :
    Reads (.furthestOf (items.map recordingOf))
      (fun text => longest (items.map fun item => readerOf item text)) := by
  intro text recorder
  have all : Recording.runAll (items.map recordingOf) text recorder =
      .ok (items.map fun item => readerOf item text, recorder) := by
    induction items with
    | nil => rfl
    | cons first others ih =>
      obtain ⟨head, tail⟩ := List.forall_mem_cons.mp each
      rw [List.map_cons, Recording.runAll, run_bind (head text recorder), run_bind (ih tail)]
      rfl
  exact run_bind all

end Listed

/-- A loop runs like the repetition of a matcher that reads something whenever it does not refuse. -/
theorem Tracks.many (tracks : Tracks recording matcher)
    (advances : ∀ {text rest : List Char} {value : α},
      matcher.read? text = some (value, rest) → rest.length < text.length) :
    Tracks recording.many matcher.many where
  forward := tracks.forward.many
  run {text recorder} covers := by
    -- On the length of the text, since less of it is left each time.
    induction size : text.length using Nat.strongRecOn generalizing text recorder with
    | ind n ih =>
      rw [Recording.many, run_bind (tracks.run covers), Matcher.many]
      rcases outcome : matcher text with ⟨_ | ⟨value, rest⟩, log⟩
      · rfl
      · have read : matcher.read? text = some (value, rest) := congrArg Outcome.result outcome
        have shorter := advances read
        simp only [if_pos shorter, Recorder.noteAll_append]
        exact run_bind (ih _ (size ▸ shorter)
          (Recorder.covers_noteAll.mpr (covers.of_suffix (tracks.forward.rest read))) rfl)

end Recorded

end GraphQuery.Query
