import GraphQuery.Proofs.Query.Logs
import GraphQuery.Proofs.Text.Quoting
import GraphQuery.Query.Furthest
import Mathlib.Data.List.Induction
import Mathlib.Data.List.Nodup

/-! The furthest place of a log, and all that was expected there.

The summary is kept while the log is read: after each event it sums up the events so far. -/

set_option autoImplicit false

namespace GraphQuery.Query

open Text

/-- Descriptions of different kinds differ in their first character. -/
theorem Expectation.describe_injective : Function.Injective Expectation.describe := by
  intro first second same
  have letters := congrArg String.toList same
  cases first <;> cases second
  case name.name => exact congrArg Expectation.name (quote_injective same)
  all_goals
    clear same
    simp_all [describe, quote, quoted, toString, String.toList_inj]

namespace Furthest

structure Sums (text : List Char) (log : List Event) (furthest : Furthest) : Prop where
  reached : furthest.rest = text ∨ ∃ what, .expected furthest.rest what ∈ log
  bound : ∀ {place what}, .expected place what ∈ log → furthest.rest.length ≤ place.length
  listed : ∀ {what}, what ∈ furthest.expected ↔
    ∃ place, .expected place what ∈ log ∧ place.length = furthest.rest.length
  distinct : furthest.expected.Nodup

section Summed
variable {text : List Char} {log : List Event} {furthest : Furthest}

theorem expected_mem_concat {event : Event} {place : List Char} {what : Expectation} :
    .expected place what ∈ log ++ [event] ↔
      .expected place what ∈ log ∨ event = .expected place what := by
  rw [List.mem_append, List.mem_singleton, eq_comm (b := event)]

theorem Sums.reached_concat (sums : Sums text log furthest) (event : Event) :
    furthest.rest = text ∨ ∃ what, .expected furthest.rest what ∈ log ++ [event] :=
  sums.reached.imp_right fun ⟨what, member⟩ => ⟨what, List.mem_append_left _ member⟩

/-- What is expected further on puts an end to all that was expected before. -/
theorem Sums.further (sums : Sums text log furthest) {place : List Char} {what : Expectation}
    (further : place.length < furthest.rest.length) :
    Sums text (log ++ [.expected place what]) ⟨place, [what]⟩ where
  reached := .inr ⟨what, List.mem_concat_self⟩
  bound member := by
    rcases expected_mem_concat.mp member with before | same
    · exact Nat.le_of_lt (Nat.lt_of_lt_of_le further (sums.bound before))
    · cases same
      exact Nat.le_refl _
  listed {other} := by
    constructor
    · intro same
      exact ⟨place, expected_mem_concat.mpr (.inr (List.mem_singleton.mp same ▸ rfl)), rfl⟩
    · rintro ⟨there, member, level⟩
      rcases expected_mem_concat.mp member with before | same
      · have behind := sums.bound before
        exact absurd (Nat.lt_of_le_of_lt (Nat.le_of_eq level) further) (Nat.not_lt.mpr behind)
      · cases same
        exact List.mem_singleton.mpr rfl
  distinct := List.nodup_singleton what

theorem Sums.level (sums : Sums text log furthest) {place : List Char} {what : Expectation}
    (level : place.length = furthest.rest.length) (fresh : what ∉ furthest.expected) :
    Sums text (log ++ [.expected place what])
      { furthest with expected := furthest.expected ++ [what] } where
  reached := sums.reached_concat _
  bound member := by
    rcases expected_mem_concat.mp member with before | same
    · exact sums.bound before
    · cases same
      exact Nat.le_of_eq level.symm
  listed {other} := by
    rw [List.mem_append, List.mem_singleton, sums.listed]
    constructor
    · rintro (⟨there, member, same⟩ | rfl)
      · exact ⟨there, expected_mem_concat.mpr (.inl member), same⟩
      · exact ⟨place, expected_mem_concat.mpr (.inr rfl), level⟩
    · rintro ⟨there, member, reached⟩
      rcases expected_mem_concat.mp member with before | same
      · exact .inl ⟨there, before, reached⟩
      · cases same
        exact .inr rfl
  distinct := List.nodup_append.mpr ⟨sums.distinct, List.nodup_singleton what, fun other member =>
    by simpa using ne_of_mem_of_not_mem member fresh⟩

/-- Nothing new is learned from an event unless something is expected there that is not yet listed. -/
theorem Sums.stale (sums : Sums text log furthest) {event : Event}
    (known : ∀ {place what}, event = .expected place what → furthest.rest.length ≤ place.length ∧
      (place.length = furthest.rest.length → what ∈ furthest.expected)) :
    Sums text (log ++ [event]) furthest where
  reached := sums.reached_concat event
  bound member := by
    rcases expected_mem_concat.mp member with before | now
    · exact sums.bound before
    · exact (known now).1
  listed {what} := by
    rw [sums.listed]
    constructor
    · rintro ⟨there, before, level⟩
      exact ⟨there, expected_mem_concat.mpr (.inl before), level⟩
    · rintro ⟨there, member, level⟩
      rcases expected_mem_concat.mp member with before | now
      · exact ⟨there, before, level⟩
      · exact sums.listed.mp ((known now).2 level)
  distinct := sums.distinct

theorem Sums.note (sums : Sums text log furthest) (event : Event) :
    Sums text (log ++ [event]) (furthest.note event) := by
  cases event with
  | accepted rest => exact sums.stale fun same => nomatch same
  | expected place what =>
    simp only [Furthest.note, Bool.and_eq_true, decide_eq_true_eq, Bool.not_eq_true',
      List.contains_eq_mem, decide_eq_false_iff_not]
    split
    · next further => exact sums.further further
    · next behind =>
      split
      · next new => exact sums.level new.1 new.2
      · next old =>
        refine sums.stale fun same => ?_
        cases same
        exact ⟨Nat.not_lt.mp behind, fun level => by_contra fun fresh => old ⟨level, fresh⟩⟩

theorem sums_ofLog (text : List Char) (log : List Event) : Sums text log (ofLog text log) := by
  induction log using List.reverseRecOn with
  | nil => exact ⟨.inl rfl, by simp, by simp [ofLog], List.nodup_nil⟩
  | append_singleton log event ih =>
    rw [ofLog, List.foldl_append]
    exact ih.note event

/-- Nothing is listed only where nothing was expected at all. -/
theorem Sums.expected_eq_nil (sums : Sums text log furthest)
    (ahead : ∀ event ∈ log, event.place <:+ text) :
    furthest.expected = [] ↔ ∀ place what, .expected place what ∉ log := by
  constructor
  · intro empty place what member
    have unlisted : ∀ what, what ∉ furthest.expected := by simp [empty]
    have start : furthest.rest = text := sums.reached.resolve_right fun ⟨what, member⟩ =>
      unlisted what (sums.listed.mpr ⟨_, member, rfl⟩)
    have within : place.length ≤ text.length := (ahead _ member).length_le
    have beyond := sums.bound member
    rw [start] at beyond
    exact unlisted what (sums.listed.mpr ⟨place, member, by rw [start]; omega⟩)
  · intro silent
    refine List.eq_nil_iff_forall_not_mem.mpr fun what member => ?_
    obtain ⟨place, found, _⟩ := sums.listed.mp member
    exact silent place what found

end Summed
end Furthest
end GraphQuery.Query
