import GraphQuery.Proofs.FirstOccurrences
import GraphQuery.Proofs.Parsing
import GraphQuery.Proofs.Query.Recording

/-! What a record says about the reports.

A record is updated at each report and never looked up again before the end of the run. What it holds then
is a summary of the reports alone. A lookahead makes no report, so it leaves no trace. -/

set_option autoImplicit false

namespace GraphQuery.Query

open Text Grammar

/-! Summaries of reports. -/

def furthestOffset (reports : List (Nat × String)) : Nat :=
  reports.foldl (fun furthest report => max furthest report.1) 0

/-- The furthest offset with each text that was reported there, in the order of the first reports. -/
def Record.ofReports (reports : List (Nat × String)) : Record where
  offset := furthestOffset reports
  expected := ((reports.filter (·.1 == furthestOffset reports)).map (·.2)).eraseDups

section Reports
variable {reports : List (Nat × String)} {offset : Nat} {what : String}

theorem furthestOffset_concat :
    furthestOffset (reports ++ [(offset, what)]) = max (furthestOffset reports) offset := by
  simp [furthestOffset]

theorem le_furthestOffset {report : Nat × String} (member : report ∈ reports) :
    report.1 ≤ furthestOffset reports := by
  induction reports using List.reverseRecOn with
  | nil => cases member
  | append_singleton reports last ih =>
    rw [furthestOffset_concat]
    rcases List.mem_append.mp member with before | now
    · exact Nat.le_trans (ih before) (Nat.le_max_left ..)
    · rw [List.mem_singleton.mp now]
      exact Nat.le_max_right ..

theorem filter_beyond (beyond : furthestOffset reports < offset) :
    reports.filter (·.1 == offset) = [] := by
  refine List.filter_eq_nil_iff.mpr fun report member same => ?_
  have within := le_furthestOffset member
  rw [eq_of_beq same] at within
  exact Nat.not_lt.mpr within beyond

theorem Record.note_ofReports (reports : List (Nat × String)) (offset : Nat) (what : String) :
    (ofReports reports).note offset what = ofReports (reports ++ [(offset, what)]) := by
  rw [note, ofReports, ofReports, furthestOffset_concat]
  simp only
  rcases Nat.lt_trichotomy (furthestOffset reports) offset with further | rfl | behind
  -- Nothing that was reported before lies so far on.
  · simp [further, Nat.max_eq_right (Nat.le_of_lt further), filter_beyond further, List.eraseDups_cons]
  · rw [if_neg (Nat.lt_irrefl _), Nat.max_self, List.filter_append, List.map_append]
    simp only [List.filter_singleton, beq_self_eq_true, Bool.cond_true, List.map_singleton,
      eraseDups_concat, true_and, List.mem_eraseDups]
    split <;> simp_all
  · have other : (offset == furthestOffset reports) = false := beq_false_of_ne (Nat.ne_of_lt behind)
    rw [if_neg (Nat.lt_asymm behind), Nat.max_eq_left (Nat.le_of_lt behind), List.filter_append,
      List.filter_singleton, other, Bool.cond_false, List.append_nil, if_neg]
    exact fun same => Nat.ne_of_lt behind same.1

end Reports

/-! Runs. -/

def reportsOf (size : Nat) (log : List Event) : List (Nat × String) :=
  log.filterMap fun
    | .accepted _ => none
    | .expected rest what => some (size - byteLength rest, what.describe)

namespace Recorder

def ofText (text : List Char) : Recorder where
  size := byteLength text

def Sums (recorder : Recorder) : Prop :=
  recorder.record = .ofReports recorder.reports

variable {recorder : Recorder} {log : List Event}

theorem sums_ofText (text : List Char) : (ofText text).Sums := rfl

theorem covers_ofText (text : List Char) : (ofText text).Covers text :=
  .inr (Nat.le_refl _)

theorem Sums.note (sums : recorder.Sums) (event : Event) : (recorder.note event).Sums := by
  cases event with
  | accepted => exact sums
  | expected rest what =>
    rw [Recorder.note]
    split
    · exact sums
    · rw [Sums, report, sums, Record.note_ofReports]

theorem Sums.noteAll (sums : recorder.Sums) (log : List Event) : (recorder.noteAll log).Sums := by
  induction log generalizing recorder with
  | nil => exact sums
  | cons event log ih => exact ih (sums.note event)

theorem reports_noteAll (loud : recorder.quiet = 0) :
    (recorder.noteAll log).reports = recorder.reports ++ reportsOf recorder.size log := by
  induction log generalizing recorder with
  | nil => exact (List.append_nil _).symm
  | cons event log ih =>
    rw [Recorder.noteAll, List.foldl_cons]
    refine (ih (quiet_note.trans loud)).trans ?_
    rw [size_note]
    cases event with
    | accepted => rfl
    | expected rest what => simp [Recorder.note, loud, report, reportsOf]

end Recorder

structure Record.Agrees (text : List Char) (record : Record) (furthest : Furthest) : Prop where
  ahead : furthest.rest <:+ text
  offset : record.offset + byteLength furthest.rest = byteLength text
  expected : record.expected = furthest.expected.map (·.describe)

/-- Places that are ends of one text are compared alike by their bytes and by their characters. -/
theorem Record.Agrees.note {text rest : List Char} {record : Record} {furthest : Furthest}
    (agrees : record.Agrees text furthest) (suffix : rest <:+ text) (what : Expectation) :
    (record.note (byteLength text - byteLength rest) what.describe).Agrees text
      (furthest.note (.expected rest what)) := by
  have fits := byteLength_le_of_suffix suffix
  have further := byteLength_lt_iff suffix agrees.ahead
  have behind := byteLength_lt_iff agrees.ahead suffix
  have place := agrees.offset
  have known : what.describe ∈ record.expected ↔ what ∈ furthest.expected := by
    rw [agrees.expected, List.mem_map_of_injective Expectation.describe_injective]
  rw [Record.note, Furthest.note]
  by_cases shorter : rest.length < furthest.rest.length
  · have beyond : record.offset < byteLength text - byteLength rest := by
      have := further.mpr shorter
      omega
    simp only [if_pos beyond, if_pos shorter, List.not_mem_nil, not_false_eq_true, and_self, if_true]
    exact ⟨suffix, Nat.sub_add_cancel fits, rfl⟩
  have noShorter := mt further.mp shorter
  have within : ¬record.offset < byteLength text - byteLength rest := by omega
  -- Neither end has fewer bytes than the other just if neither has fewer characters.
  have level : byteLength text - byteLength rest = record.offset ↔ rest.length = furthest.rest.length := by
    omega
  simp only [if_neg within, if_neg shorter, Bool.and_eq_true, decide_eq_true_eq, Bool.not_eq_true',
    List.contains_eq_mem, decide_eq_false_iff_not, level, known]
  split
  · exact ⟨agrees.ahead, agrees.offset, by rw [agrees.expected, List.map_append]; rfl⟩
  · exact agrees

theorem agrees_noteAll {text : List Char} {log : List Event} (ahead : ∀ event ∈ log, event.place <:+ text) :
    ((Recorder.ofText text).noteAll log).record.Agrees text (.ofLog text log) := by
  induction log using List.reverseRecOn with
  | nil => exact ⟨List.suffix_rfl, Nat.zero_add _, rfl⟩
  | append_singleton log event ih =>
    have agrees := ih fun event member => ahead event (List.mem_append_left _ member)
    rw [Recorder.noteAll_append, Furthest.ofLog, List.foldl_append]
    cases event with
    | accepted => exact agrees
    | expected rest what =>
      have loud : ¬0 < ((Recorder.ofText text).noteAll log).quiet := by
        rw [Recorder.quiet_noteAll]
        exact Nat.lt_irrefl 0
      show (((Recorder.ofText text).noteAll log).note (.expected rest what)).record.Agrees text
        ((Furthest.ofLog text log).note (.expected rest what))
      rw [Recorder.note, if_neg loud, Recorder.size_noteAll]
      exact agrees.note (ahead _ List.mem_concat_self) what

/-! All runs. -/

variable {grammar : Grammar} {text : List Char} {recorder : Recorder}

theorem Tracks.summary {α : Type} {recording : Recording α} {matcher : Matcher α}
    (tracks : Tracks recording matcher) (covers : recorder.Covers text) (sums : recorder.Sums)
    (loud : recorder.quiet = 0) :
    ∃ after, recording text recorder = .ok ((matcher text).result, after) ∧ after.Sums ∧
      after.quiet = 0 ∧ after.reports = recorder.reports ++ reportsOf recorder.size (matcher text).log :=
  ⟨_, tracks.run covers, sums.noteAll _, Recorder.quiet_noteAll.trans loud, Recorder.reports_noteAll loud⟩

/-- The record of a whole query is that of the log. -/
theorem exists_run_tree (grammar : Grammar) (text : List Char) : ∃ after : Recorder,
    Recording.tree grammar text (.ofText text) = .ok ((tree grammar text).result, after) ∧
      after.record = .ofReports (reportsOf (byteLength text) (tree grammar text).log) ∧
      after.record.Agrees text (.ofLog text (tree grammar text).log) := by
  have tracks : Tracks (Recording.tree grammar) (tree grammar) := Recording.tracks_tree
  have sums := (Recorder.sums_ofText text).noteAll (tree grammar text).log
  have reports : ((Recorder.ofText text).noteAll (tree grammar text).log).reports =
      reportsOf (byteLength text) (tree grammar text).log := Recorder.reports_noteAll rfl
  refine ⟨_, tracks.run (Recorder.covers_ofText text), ?_, ?_⟩
  · rw [sums, reports]
  · exact agrees_noteAll fun event member => tracks.forward.log member

/-- Whatever part of a query is read, the record stays a summary of all reports so far, which are what the
matcher has in its log. A lookahead leaves the recorder as it is, and so does everything that is called in a
lookahead. At the end of a query the record holds its furthest place and what was expected there. -/
theorem record_of_reports (grammar : Grammar) :
    (∀ {α : Type} {recording : Recording α} {matcher : Matcher α},
      Production grammar recording matcher → ∀ (text : List Char) (recorder : Recorder),
        (recorder.quiet = 0 → recorder.Covers text → recorder.record = .ofReports recorder.reports →
          ∃ after, recording text recorder = .ok ((matcher text).result, after) ∧
            after.record = .ofReports after.reports ∧ after.quiet = 0 ∧
              after.reports = recorder.reports ++ reportsOf recorder.size (matcher text).log) ∧
        (0 < recorder.quiet → recording text recorder = .ok ((matcher text).result, recorder))) ∧
    (∀ (entry : TypeEntry) (text : List Char) (recorder : Recorder),
      Recording.endsValue grammar entry text recorder = .ok (endsValue grammar entry text, recorder)) ∧
    (∀ text : List Char, ∃ after : Recorder,
      Recording.tree grammar text (.ofText text) = .ok ((tree grammar text).result, after) ∧
        after.record = .ofReports (reportsOf (byteLength text) (tree grammar text).log) ∧
        after.record.Agrees text (.ofLog text (tree grammar text).log)) := by
  refine ⟨fun production text recorder => ⟨fun loud covers sums => ?_, fun quiet => ?_⟩,
    Recording.endsValue_eq grammar, fun text => ?_⟩
  · exact production.tracks.summary covers sums loud
  · exact production.tracks.quiet quiet text
  · exact exists_run_tree grammar text

/-- Both names of relationships are expected behind `who`, after many reports that lie further back. -/
theorem record_of_reports_town :
    let text := "People who live".toList
    let grammar := Grammar.ofTypes Parser.townSchema
    Production grammar (Recording.tree grammar) (tree grammar) ∧ (Recorder.ofText text).Covers text ∧
      ∃ after, Recording.tree grammar text (.ofText text) = .ok ((tree grammar text).result, after) ∧
        after.record = .ofReports after.reports ∧
        after.record = ⟨11, ["\"likes\"", "\"lives in\""]⟩ := by
  intro text grammar
  have covers := Recorder.covers_ofText text
  have computed : ((Recording.tree grammar text (.ofText text)).toOption.map (·.2.record)) =
      some ⟨11, ["\"likes\"", "\"lives in\""]⟩ := by decide +kernel
  obtain ⟨after, ran, sums, _⟩ := ((record_of_reports grammar).1 .tree text (.ofText text)).1 rfl covers rfl
  rw [ran] at computed
  exact ⟨.tree, covers, after, ran, sums, Option.some.inj computed⟩

end GraphQuery.Query
