import GraphQuery.Query.Matcher

/-! What matchers read, the log aside.

`read?` forgets the log of a matcher. There is one equation for each way to combine matchers, so
that a production can be taken apart without its log. -/

set_option autoImplicit false

namespace GraphQuery.Text

variable {α : Type}

theorem further_eq_some {first second : Option (Reading α)} {reading : Reading α}
    (selected : further first second = some reading) :
    first = some reading ∨ second = some reading := by
  unfold further at selected
  split at selected
  · exact Or.inr selected
  · exact Or.inl selected
  · split at selected
    · exact Or.inr selected
    · exact Or.inl selected

theorem foldl_further_mem {readings : List (Option (Reading α))} {start : Option (Reading α)}
    {reading : Reading α} (selected : readings.foldl further start = some reading) :
    start = some reading ∨ some reading ∈ readings := by
  induction readings generalizing start with
  | nil => exact Or.inl selected
  | cons first rest ih =>
    rcases ih selected with same | member
    · rcases further_eq_some same with same | same
      · exact Or.inl same
      · exact Or.inr (same ▸ List.mem_cons_self)
    · exact Or.inr (List.mem_cons_of_mem first member)

theorem mem_of_longest {readings : List (Option (Reading α))} {reading : Reading α}
    (selected : longest readings = some reading) : some reading ∈ readings := by
  rcases foldl_further_mem selected with impossible | member
  · cases impossible
  · exact member

theorem isSome_further {first second : Option (Reading α)}
    (read : first.isSome = true ∨ second.isSome = true) : (further first second).isSome = true := by
  unfold further
  split
  · exact read.resolve_left Bool.false_ne_true
  · exact read.resolve_right Bool.false_ne_true
  · split <;> rfl

theorem length_le_of_further {first second : Option (Reading α)} {reading other : Reading α}
    (selected : further first second = some reading)
    (offered : first = some other ∨ second = some other) :
    reading.2.length ≤ other.2.length := by
  cases first <;> cases second <;> grind [further]

theorem length_le_of_foldl_further {readings : List (Option (Reading α))}
    {start : Option (Reading α)} {reading other : Reading α}
    (selected : readings.foldl further start = some reading)
    (offered : start = some other ∨ some other ∈ readings) :
    reading.2.length ≤ other.2.length := by
  induction readings generalizing start other with
  | nil => simp_all
  | cons first rest ih =>
    have before : ∀ {other}, start = some other ∨ first = some other →
        reading.2.length ≤ other.2.length := fun {other} offered => by
      have kept : (further start first).isSome = true :=
        isSome_further (offered.imp Option.isSome_of_eq_some Option.isSome_of_eq_some)
      obtain ⟨middle, kept⟩ := Option.isSome_iff_exists.mp kept
      exact Nat.le_trans (ih selected (.inl kept)) (length_le_of_further kept offered)
    rcases offered with begun | member
    · exact before (.inl begun)
    · rcases List.mem_cons.mp member with same | later
      · exact before (.inr same.symm)
      · exact ih selected (.inr later)

theorem length_le_of_longest {readings : List (Option (Reading α))} {reading other : Reading α}
    (selected : longest readings = some reading) (member : some other ∈ readings) :
    reading.2.length ≤ other.2.length :=
  length_le_of_foldl_further selected (.inr member)

theorem isSome_foldl_further {readings : List (Option (Reading α))} {start : Option (Reading α)}
    (read : start.isSome = true ∨ ∃ reading ∈ readings, reading.isSome = true) :
    (readings.foldl further start).isSome = true := by
  induction readings generalizing start with
  | nil => exact read.resolve_right (by simp)
  | cons first rest ih =>
    refine ih ?_
    rcases read with begun | ⟨reading, member, read⟩
    · exact .inl (isSome_further (.inl begun))
    · rcases List.mem_cons.mp member with rfl | member
      · exact .inl (isSome_further (.inr read))
      · exact .inr ⟨reading, member, read⟩

theorem isSome_longest {readings : List (Option (Reading α))} {reading : Reading α}
    (member : some reading ∈ readings) : (longest readings).isSome = true :=
  isSome_foldl_further (.inr ⟨some reading, member, rfl⟩)

theorem longest_eq_some {readings : List (Option (Reading α))} {reading : Reading α}
    (member : some reading ∈ readings) (only : ∀ other, some other ∈ readings → other = reading) :
    longest readings = some reading := by
  obtain ⟨other, selected⟩ := Option.isSome_iff_exists.mp (isSome_longest member)
  rw [selected, only other (mem_of_longest selected)]

end GraphQuery.Text

namespace GraphQuery.Query.Matcher

open Text

variable {α β : Type}

def read? (matcher : Matcher α) (text : List Char) : Option (Reading α) :=
  (matcher text).result

@[simp] theorem read?_pure (value : α) (text : List Char) :
    read? (Pure.pure value : Matcher α) text = some (value, text) := rfl

theorem read?_bind (first : Matcher α) (next : α → Matcher β) (text : List Char) :
    (first >>= next).read? text =
      (first.read? text).bind fun reading => (next reading.1).read? reading.2 := by
  show (Matcher.bind first next text).result = _
  rcases outcome : first text with ⟨_ | ⟨value, rest⟩, log⟩ <;>
    simp [Matcher.bind, read?, outcome]

theorem read?_bind_eq_some {first : Matcher α} {next : α → Matcher β} {text rest : List Char}
    {value : β} :
    (first >>= next).read? text = some (value, rest) ↔
      ∃ before middle, first.read? text = some (before, middle) ∧
        (next before).read? middle = some (value, rest) := by
  simp only [read?_bind, Option.bind_eq_some_iff, Prod.exists]

theorem read?_bind_of_eq_some {first : Matcher α} {next : α → Matcher β} {text middle : List Char}
    {before : α} (read : first.read? text = some (before, middle)) :
    (first >>= next).read? text = (next before).read? middle := by
  rw [read?_bind, read, Option.bind_some]

theorem read?_bind_of_eq_none {first : Matcher α} {next : α → Matcher β} {text : List Char}
    (refused : first.read? text = none) : (first >>= next).read? text = none := by
  rw [read?_bind, refused, Option.bind_none]

theorem read?_eq_none {matcher : Matcher α} {text : List Char}
    (never : ∀ {value : α} {rest : List Char}, matcher.read? text = some (value, rest) → False) :
    matcher.read? text = none := by
  cases read : matcher.read? text with
  | none => rfl
  | some reading => exact (never read).elim

theorem rest_unique {matcher : Matcher α} {text rest left : List Char} {value other : α}
    (read : matcher.read? text = some (value, rest))
    (read' : matcher.read? text = some (other, left)) : rest = left := by
  rw [read] at read'
  exact (Prod.mk.inj (Option.some.inj read')).2

theorem read?_piece (what : List Expectation) (reader : List Char → Option (Reading α))
    (text : List Char) : (piece what reader).read? text = reader text := by
  cases read : reader text <;> simp [piece, read?, read]

theorem read?_optional (matcher : Matcher α) (text : List Char) :
    matcher.optional.read? text =
      match matcher.read? text with
      | some (value, rest) => some (some value, rest)
      | none => some (none, text) := by
  rcases outcome : matcher text with ⟨_ | ⟨value, rest⟩, log⟩ <;>
    simp [optional, read?, outcome]

theorem read?_optional_eq_some {matcher : Matcher α} {text rest : List Char} {found : Option α} :
    matcher.optional.read? text = some (found, rest) ↔
      (∃ value, found = some value ∧ matcher.read? text = some (value, rest)) ∨
        found = none ∧ text = rest ∧ matcher.read? text = none := by
  rw [read?_optional]
  cases outcome : matcher.read? text with
  | none => simp [eq_comm]
  | some reading => cases found <;> simp [Prod.ext_iff]

theorem read?_optional_of_eq_some {matcher : Matcher α} {text rest : List Char} {value : α}
    (read : matcher.read? text = some (value, rest)) :
    matcher.optional.read? text = some (some value, rest) := by
  rw [read?_optional, read]

theorem read?_optional_of_eq_none {matcher : Matcher α} {text : List Char}
    (refused : matcher.read? text = none) : matcher.optional.read? text = some (none, text) := by
  rw [read?_optional, refused]

theorem read?_orElse (first second : Matcher α) (text : List Char) :
    (orElse first second).read? text = (first.read? text).or (second.read? text) := by
  rcases outcome : first text with ⟨_ | reading, log⟩ <;> simp [orElse, read?, outcome]

theorem read?_firstOf (matchers : List (Matcher α)) (text : List Char) :
    (firstOf matchers).read? text = matchers.findSome? (·.read? text) := by
  induction matchers with
  | nil => rfl
  | cons first rest ih =>
    rw [firstOf, read?_orElse, ih, List.findSome?_cons]
    cases first.read? text <;> rfl

theorem read?_furthestOf (matchers : List (Matcher α)) (text : List Char) :
    (furthestOf matchers).read? text = longest (matchers.map (·.read? text)) := by
  show longest ((matchers.map (· text)).map (·.result)) = _
  rw [List.map_map]
  rfl

theorem read?_many (matcher : Matcher α) (text : List Char) :
    read? (many matcher) text =
      match matcher.read? text with
      | none => some ([], text)
      | some (value, rest) =>
        if rest.length < text.length then
          (read? (many matcher) rest).map fun reading => (value :: reading.1, reading.2)
        else some ([], text) := by
  -- The recursion of `many` is opened here only.
  unfold read?
  rw [many]
  split
  · next refused => simp [refused]
  · next read =>
    simp only [read]
    split <;> rfl

theorem read?_many_of_eq_none {matcher : Matcher α} {text : List Char}
    (refused : matcher.read? text = none) : read? (many matcher) text = some ([], text) := by
  rw [read?_many, refused]

theorem rest_of_read?_many_nil {matcher : Matcher α} {text rest : List Char}
    (read : read? (many matcher) text = some ([], rest)) : rest = text := by
  rw [read?_many] at read
  split at read
  · exact (Prod.mk.inj (Option.some.inj read)).2.symm
  · split at read
    · obtain ⟨_, _, same⟩ := Option.map_eq_some_iff.mp read
      cases (Prod.mk.inj same).1
    · exact (Prod.mk.inj (Option.some.inj read)).2.symm

theorem exists_of_read?_many_cons {matcher : Matcher α} {text rest : List Char} {value : α} {more : List α}
    (read : read? (many matcher) text = some (value :: more, rest)) :
    ∃ middle, matcher.read? text = some (value, middle) ∧
      read? (many matcher) middle = some (more, rest) := by
  rw [read?_many] at read
  split at read
  · cases (Prod.mk.inj (Option.some.inj read)).1
  · next first middle found =>
    split at read
    · obtain ⟨⟨_, _⟩, others, same⟩ := Option.map_eq_some_iff.mp read
      obtain ⟨values, rfl⟩ := Prod.mk.inj same
      obtain ⟨rfl, rfl⟩ := List.cons.inj values
      exact ⟨middle, found, others⟩
    · cases (Prod.mk.inj (Option.some.inj read)).1

theorem accepts_eq_isSome (matcher : Matcher α) (text : List Char) :
    matcher.accepts text = (matcher.read? text).isSome := rfl

theorem exists_read_of_accepts {matcher : Matcher α} {text : List Char}
    (accepted : matcher.accepts text = true) :
    ∃ value rest, matcher.read? text = some (value, rest) := by
  obtain ⟨⟨value, rest⟩, read⟩ := Option.isSome_iff_exists.mp accepted
  exact ⟨value, rest, read⟩

end GraphQuery.Query.Matcher
