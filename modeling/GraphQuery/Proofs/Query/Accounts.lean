import GraphQuery.Proofs.Query.Logs

/-! Nothing is accepted in vain.

Where a matcher has accepted a piece, something is expected at the end of that piece or further on, or
the matcher goes on to read from there. It takes that whatever comes after another matcher never refuses
in silence. -/

set_option autoImplicit false

namespace GraphQuery.Query

open Text

def Reported (log : List Event) (place : List Char) : Prop :=
  ∃ there what, .expected there what ∈ log ∧ there.length ≤ place.length

section Reported
variable {log more : List Event} {place further : List Char}

theorem Reported.mono (reported : Reported log place) (kept : ∀ event ∈ log, event ∈ more) :
    Reported more place := by
  obtain ⟨there, what, member, reached⟩ := reported
  exact ⟨there, what, kept _ member, reached⟩

theorem Reported.back (reported : Reported log further) (beyond : further.length ≤ place.length) :
    Reported log place := by
  obtain ⟨there, what, member, reached⟩ := reported
  exact ⟨there, what, member, Nat.le_trans reached beyond⟩

end Reported

namespace Matcher

/-- At this place or further on something is expected, or the matcher leaves nothing beyond it in the end,
or the place is excused. -/
def Covered {α : Type} (excused : List Char → Prop) (matcher : Matcher α) (text place : List Char) :
    Prop :=
  Reported (matcher text).log place ∨ excused place ∨
    ∃ value rest, matcher.read? text = some (value, rest) ∧ rest.length ≤ place.length

/-- Accounts for the end of every piece that is accepted in a text. -/
structure Accounted {α : Type} (excused : List Char → Prop) (matcher : Matcher α) (text : List Char) :
    Prop where
  shrinks : ∀ {value rest}, matcher.read? text = some (value, rest) → rest.length ≤ text.length
  covered : ∀ {place}, .accepted place ∈ (matcher text).log → Covered excused matcher text place

/-- Moreover says what was expected if the text is refused. -/
structure Vocal {α : Type} (excused : List Char → Prop) (matcher : Matcher α) (text : List Char) : Prop
    extends Accounted excused matcher text where
  reports : matcher.read? text = none → Reported (matcher text).log text

section Combined
variable {α β : Type} {excused : List Char → Prop} {matcher first second : Matcher α}
  {next : α → Matcher β} {text : List Char}

/-- What one matcher covers is covered by another one that keeps its log and goes on where it ends. -/
theorem Covered.imp {other : Matcher β} {start place : List Char}
    (covered : Covered excused matcher start place)
    (kept : ∀ event ∈ (matcher start).log, event ∈ (other text).log)
    (goesOn : ∀ {value rest}, matcher.read? start = some (value, rest) → rest.length ≤ place.length →
      Covered excused other text place) : Covered excused other text place := by
  rcases covered with reported | excuse | ⟨value, rest, read, beyond⟩
  · exact .inl (reported.mono kept)
  · exact .inr (.inl excuse)
  · exact goesOn read beyond

theorem Covered.of_read {place rest : List Char} {value : α}
    (read : matcher.read? text = some (value, rest)) (beyond : rest.length ≤ place.length) :
    Covered excused matcher text place :=
  .inr (.inr ⟨value, rest, read, beyond⟩)

theorem Vocal.mono {other : List Char → Prop} (vocal : Vocal excused matcher text)
    (weaker : ∀ place, excused place → other place) : Vocal other matcher text where
  shrinks := vocal.shrinks
  covered member := (vocal.covered member).imp_right (Or.imp_left (weaker _))
  reports := vocal.reports

theorem Vocal.pure (value : α) : Vocal excused (Pure.pure value : Matcher α) text where
  shrinks read := by
    cases read
    exact Nat.le_refl _
  covered member := by simp at member
  reports refused := by cases refused

theorem Accounted.reject : Accounted excused (Matcher.reject : Matcher α) text where
  shrinks read := by cases read
  covered member := by simp at member

theorem Accounted.piece {what : List Expectation} {reader : List Char → Option (Reading α)}
    (forward : Forward (Matcher.piece what reader)) :
    Accounted excused (Matcher.piece what reader) text where
  shrinks read := (forward.rest read).length_le
  covered member := by
    obtain ⟨value, read⟩ := read_of_accepted member
    exact .of_read read (Nat.le_refl _)

theorem Vocal.piece {what : List Expectation} {reader : List Char → Option (Reading α)}
    (forward : Forward (Matcher.piece what reader)) (nonempty : what ≠ []) :
    Vocal excused (Matcher.piece what reader) text where
  toAccounted := .piece forward
  reports refused := by
    obtain ⟨expected, member⟩ := List.exists_mem_of_ne_nil what nonempty
    rw [read?_piece] at refused
    exact ⟨text, expected, mem_log_piece.mpr (.inr ⟨refused, expected, member, rfl⟩), Nat.le_refl _⟩

theorem Accounted.bind (head : Accounted excused first text)
    (tail : ∀ {value rest}, first.read? text = some (value, rest) → Vocal excused (next value) rest) :
    Accounted excused (first >>= next) text where
  shrinks read := by
    obtain ⟨value, middle, begun, ended⟩ := read?_bind_eq_some.mp read
    exact Nat.le_trans ((tail begun).shrinks ended) (head.shrinks begun)
  covered member := by
    have later : ∀ {value middle}, first.read? text = some (value, middle) →
        ∀ event ∈ (next value middle).log, event ∈ ((first >>= next) text).log :=
      fun begun _ logged => mem_log_bind.mpr (.inr ⟨_, _, begun, logged⟩)
    rcases mem_log_bind.mp member with early | ⟨value, middle, begun, late⟩
    · refine (head.covered early).imp (fun _ logged => mem_log_bind.mpr (.inl logged)) ?_
      -- The first matcher leaves nothing beyond the piece, and the next one goes on from there.
      intro value middle begun beyond
      cases ended : (next value).read? middle with
      | none => exact .inl ((((tail begun).reports ended).mono (later begun)).back beyond)
      | some reading =>
        exact .of_read (read?_bind_eq_some.mpr ⟨value, middle, begun, ended⟩)
          (Nat.le_trans ((tail begun).shrinks ended) beyond)
    · exact ((tail begun).covered late).imp (later begun) fun ended beyond =>
        .of_read (read?_bind_eq_some.mpr ⟨value, middle, begun, ended⟩) beyond

theorem Vocal.bind (head : Vocal excused first text)
    (tail : ∀ {value rest}, first.read? text = some (value, rest) → Vocal excused (next value) rest) :
    Vocal excused (first >>= next) text where
  toAccounted := head.toAccounted.bind tail
  reports refused := by
    cases begun : first.read? text with
    | none => exact (head.reports begun).mono fun _ logged => mem_log_bind.mpr (.inl logged)
    | some reading =>
      rw [read?_bind_of_eq_some begun] at refused
      have reported := ((tail begun).reports refused).back (head.shrinks begun)
      exact reported.mono fun _ logged => mem_log_bind.mpr (.inr ⟨_, _, begun, logged⟩)

theorem Vocal.optional (each : Accounted excused matcher text) :
    Vocal excused matcher.optional text where
  shrinks read := by
    rcases read?_optional_eq_some.mp read with ⟨value, _, found⟩ | ⟨_, rfl, _⟩
    · exact each.shrinks found
    · exact Nat.le_refl _
  covered member := by
    have kept : (matcher.optional text).log = (matcher text).log := log_optional matcher
    exact (each.covered (kept ▸ member)).imp (fun _ logged => kept ▸ logged) fun read =>
      .of_read (read?_optional_of_eq_some read)
  reports refused := by
    rw [read?_optional] at refused
    split at refused <;> cases refused

theorem Accounted.orElse (head : Accounted excused first text) (other : Accounted excused second text) :
    Accounted excused (Matcher.orElse first second) text where
  shrinks read := by
    rw [read?_orElse, Option.or_eq_some_iff] at read
    rcases read with found | ⟨_, found⟩
    · exact head.shrinks found
    · exact other.shrinks found
  covered member := by
    rcases mem_log_orElse.mp member with early | ⟨refused, late⟩
    · exact (head.covered early).imp (fun _ logged => mem_log_orElse.mpr (.inl logged)) fun read =>
        .of_read (by rw [read?_orElse, read, Option.some_or])
    · exact (other.covered late).imp (fun _ logged => mem_log_orElse.mpr (.inr ⟨refused, logged⟩))
        fun read => .of_read (by rw [read?_orElse, refused, Option.none_or, read])

/-- It is enough that one of the two alternatives speaks. -/
theorem Vocal.orElse_right (head : Accounted excused first text) (other : Vocal excused second text) :
    Vocal excused (Matcher.orElse first second) text where
  toAccounted := head.orElse other.toAccounted
  reports refused := by
    rw [read?_orElse, Option.or_eq_none_iff] at refused
    exact (other.reports refused.2).mono fun _ logged => mem_log_orElse.mpr (.inr ⟨refused.1, logged⟩)

theorem Vocal.orElse (head : Vocal excused first text) (other : Accounted excused second text) :
    Vocal excused (Matcher.orElse first second) text where
  toAccounted := head.toAccounted.orElse other
  reports refused := by
    rw [read?_orElse, Option.or_eq_none_iff] at refused
    exact (head.reports refused.1).mono fun _ logged => mem_log_orElse.mpr (.inl logged)

theorem Vocal.firstOf {matchers : List (Matcher α)} (nonempty : matchers ≠ [])
    (each : ∀ matcher ∈ matchers, Vocal excused matcher text) :
    Vocal excused (Matcher.firstOf matchers) text := by
  induction matchers with
  | nil => exact absurd rfl nonempty
  | cons first others ih =>
    obtain ⟨head, tail⟩ := List.forall_mem_cons.mp each
    cases others with
    | nil => exact head.orElse .reject
    | cons second others => exact head.orElse (ih (List.cons_ne_nil _ _) tail).toAccounted

theorem Accounted.furthestOf {matchers : List (Matcher α)}
    (each : ∀ matcher ∈ matchers, Accounted excused matcher text) :
    Accounted excused (Matcher.furthestOf matchers) text where
  shrinks read := by
    rw [read?_furthestOf] at read
    obtain ⟨matcher, listed, found⟩ := List.mem_map.mp (mem_of_longest read)
    exact (each matcher listed).shrinks found
  covered member := by
    obtain ⟨matcher, listed, inside⟩ := mem_log_furthestOf.mp member
    refine ((each matcher listed).covered inside).imp
      (fun _ logged => mem_log_furthestOf.mpr ⟨matcher, listed, logged⟩) ?_
    -- Whichever alternative is taken, it leaves no more than this one.
    intro value rest read beyond
    have offered : some (value, rest) ∈ matchers.map (·.read? text) :=
      List.mem_map.mpr ⟨matcher, listed, read⟩
    obtain ⟨best, selected⟩ := Option.isSome_iff_exists.mp (isSome_longest offered)
    exact .of_read ((read?_furthestOf matchers text).trans selected)
      (Nat.le_trans (length_le_of_longest selected offered) beyond)

theorem Vocal.furthestOf {matchers : List (Matcher α)} (nonempty : matchers ≠ [])
    (each : ∀ matcher ∈ matchers, Vocal excused matcher text) :
    Vocal excused (Matcher.furthestOf matchers) text where
  toAccounted := .furthestOf fun matcher member => (each matcher member).toAccounted
  reports refused := by
    obtain ⟨matcher, listed⟩ := List.exists_mem_of_ne_nil matchers nonempty
    have silent : matcher.read? text = none := by
      cases read : matcher.read? text with
      | none => rfl
      | some reading =>
        have offered : some reading ∈ matchers.map (·.read? text) :=
          List.mem_map.mpr ⟨matcher, listed, read⟩
        have selected := isSome_longest offered
        rw [← read?_furthestOf, refused] at selected
        cases selected
    exact ((each matcher listed).reports silent).mono fun _ logged =>
      mem_log_furthestOf.mpr ⟨matcher, listed, logged⟩

theorem exists_read_many (matcher : Matcher α) (text : List Char) :
    ∃ values rest, (many matcher).read? text = some (values, rest) := by
  induction size : text.length using Nat.strongRecOn generalizing text with
  | ind size ih =>
    rw [read?_many]
    split
    · exact ⟨[], text, rfl⟩
    · next value middle _ =>
      split
      · next shorter =>
        obtain ⟨values, rest, read⟩ := ih _ (size ▸ shorter) middle rfl
        exact ⟨value :: values, rest, by rw [read]; rfl⟩
      · exact ⟨[], text, rfl⟩

theorem many_ne_none (matcher : Matcher α) (text : List Char) : (many matcher).read? text ≠ none := by
  obtain ⟨values, rest, read⟩ := exists_read_many matcher text
  rw [read]
  exact Option.some_ne_none _

theorem length_le_of_read_many {middle rest : List Char} {value : α} {values : List α}
    (forward : Forward matcher) (found : matcher.read? text = some (value, middle))
    (read : (many matcher).read? text = some (values, rest)) : rest.length ≤ middle.length := by
  rw [read?_many, found] at read
  simp only at read
  split at read
  · obtain ⟨⟨more, left⟩, others, same⟩ := Option.map_eq_some_iff.mp read
    cases same
    exact (forward.many.rest others).length_le
  · next whole =>
    cases read
    exact Nat.not_lt.mp whole

theorem Vocal.many (forward : Forward matcher)
    (each : ∀ {rest}, rest <:+ text → Accounted excused matcher rest) :
    Vocal excused (Matcher.many matcher) text where
  shrinks read := (forward.many.rest read).length_le
  covered member := by
    -- On how much text there is, since a repetition goes on only with less of it.
    induction size : text.length using Nat.strongRecOn generalizing text with
    | ind size ih =>
      rcases mem_log_many.mp member with early | ⟨value, middle, found, shorter, late⟩
      · obtain ⟨values, rest, read⟩ := exists_read_many matcher text
        exact ((each List.suffix_rfl).covered early).imp
          (fun _ logged => mem_log_many.mpr (.inl logged)) fun found beyond =>
            .of_read read (Nat.le_trans (length_le_of_read_many forward found read) beyond)
      · have others := ih _ (size ▸ shorter)
          (fun within => each (within.trans (forward.rest found))) late rfl
        refine others.imp
          (fun _ logged => mem_log_many.mpr (.inr ⟨value, middle, found, shorter, logged⟩)) ?_
        intro more rest read beyond
        have whole : (Matcher.many matcher).read? text = some (value :: more, rest) := by
          rw [read?_many, found]
          simp only [shorter, if_true, read, Option.map_some]
        exact .of_read whole beyond
  reports refused := absurd refused (many_ne_none matcher text)

/-- A repetition has looked for one more item where it ends. -/
theorem last_of_many {rest : List Char} {values : List α}
    (shrinks : ∀ {text rest value}, matcher.read? text = some (value, rest) → rest.length < text.length)
    (read : (Matcher.many matcher).read? text = some (values, rest)) :
    matcher.read? rest = none ∧
      ∀ event ∈ (matcher rest).log, event ∈ (Matcher.many matcher text).log := by
  induction size : text.length using Nat.strongRecOn generalizing text values with
  | ind size ih =>
    rw [read?_many] at read
    split at read
    · next refused =>
      cases read
      exact ⟨refused, fun event logged => mem_log_many.mpr (.inl logged)⟩
    · next value middle found =>
      have shorter := shrinks found
      rw [if_pos shorter] at read
      obtain ⟨⟨more, left⟩, others, same⟩ := Option.map_eq_some_iff.mp read
      cases same
      obtain ⟨refused, kept⟩ := ih _ (size ▸ shorter) others rfl
      exact ⟨refused, fun event logged =>
        mem_log_many.mpr (.inr ⟨value, middle, found, shorter, kept event logged⟩)⟩

end Combined
end Matcher

end GraphQuery.Query
