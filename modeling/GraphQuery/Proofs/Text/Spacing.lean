import GraphQuery.Proofs.Text.Spelling

/-! Texts with collapsed whitespace.

To collapse a text is to trim it first and to squeeze the runs of whitespace that are left. It can be done in
one pass as well, which writes the space for a run only when the next word begins. The texts that stay as
they are have single spaces between their words, and no other whitespace. -/

set_option autoImplicit false

namespace GraphQuery.Text

variable {c : Char} {text : List Char}

/-- What has been read so far: no word yet, a word last, or whitespace behind one. -/
inductive Spacing where
  | start
  | word
  | gap
  deriving DecidableEq, Repr

def respace : Spacing → List Char → List Char
  | _, [] => []
  | .start, c :: rest => if isWhitespace c then respace .start rest else c :: respace .word rest
  | .word, c :: rest => if isWhitespace c then respace .gap rest else c :: respace .word rest
  | .gap, c :: rest => if isWhitespace c then respace .gap rest else ' ' :: c :: respace .word rest

def Spacing.next (c : Char) : Spacing → Spacing
  | .start => if isWhitespace c then .start else .word
  | .word | .gap => if isWhitespace c then .gap else .word

def Spacing.written (c : Char) : Spacing → List Char
  | .start | .word => if isWhitespace c then [] else [c]
  | .gap => if isWhitespace c then [] else [' ', c]

theorem respace_cons (spacing : Spacing) (c : Char) (rest : List Char) :
    respace spacing (c :: rest) = spacing.written c ++ respace (spacing.next c) rest := by
  cases spacing <;> cases space : isWhitespace c <;>
    simp [respace, Spacing.written, Spacing.next, space]

/-! One pass does what trimming and squeezing do. -/

theorem rdropWhile_cons (test : Char → Bool) (c : Char) (rest : List Char) :
    (c :: rest).rdropWhile test =
      if rest.rdropWhile test = [] then (if test c then [] else [c]) else c :: rest.rdropWhile test := by
  simp only [List.rdropWhile, List.reverse_cons, List.dropWhile_append, List.reverse_eq_nil_iff,
    List.isEmpty_iff]
  split
  · cases held : test c <;> simp [held]
  · simp

theorem squeeze_visible (visible : isWhitespace c = false) : squeeze (c :: text) = c :: squeeze text := by
  rw [squeeze.eq_def]
  simp [visible]

theorem squeeze_run {d : Char} (first : isWhitespace c = true) (second : isWhitespace d = true)
    (nonempty : text ≠ []) : squeeze (c :: text) = squeeze (d :: text) := by
  cases text with
  | nil => exact absurd rfl nonempty
  | cons e rest => rw [squeeze, squeeze, if_pos first, if_pos second]

theorem squeeze_space_visible (visible : isWhitespace c = false) :
    squeeze (' ' :: c :: text) = ' ' :: c :: squeeze text := by
  have space : isWhitespace ' ' = true := by decide
  rw [squeeze, if_pos space]
  simp only [visible, Bool.false_eq_true, if_false, squeeze_visible visible]

theorem squeeze_space_run (space : isWhitespace c = true) (nonempty : text ≠ []) :
    squeeze (' ' :: c :: text) = squeeze (' ' :: text) := by
  have first : isWhitespace ' ' = true := by decide
  rw [squeeze, if_pos first]
  simp only [space, if_true]
  exact squeeze_run space first nonempty

/-- Whitespace at the end is never written. -/
theorem respace_inside (text : List Char) :
    respace .word text = squeeze (text.rdropWhile isWhitespace) ∧
      respace .gap text =
        if text.rdropWhile isWhitespace = [] then [] else squeeze (' ' :: text.rdropWhile isWhitespace) := by
  induction text with
  | nil => exact ⟨rfl, rfl⟩
  | cons c rest ih =>
    obtain ⟨word, gap⟩ := ih
    have first : isWhitespace ' ' = true := by decide
    rw [rdropWhile_cons]
    cases space : isWhitespace c with
    | true =>
      -- Whitespace is written only if a word follows.
      by_cases trailing : rest.rdropWhile isWhitespace = []
      · simp [respace, space, gap, trailing, squeeze]
      · simp [respace, space, gap, trailing, squeeze_run space first trailing,
          squeeze_space_run space trailing]
    | false =>
      have kept : (if rest.rdropWhile isWhitespace = [] then [c] else
          c :: rest.rdropWhile isWhitespace) = c :: rest.rdropWhile isWhitespace := by
        split
        · next trailing => rw [trailing]
        · rfl
      simp only [Bool.false_eq_true, if_false, kept]
      refine ⟨?_, ?_⟩
      · rw [respace, space, squeeze_visible space, word]
        rfl
      · rw [respace, space, squeeze_space_visible space, if_neg (List.cons_ne_nil c _), word]
        rfl

theorem collapse_eq_respace (text : List Char) : collapse text = respace .start text := by
  induction text with
  | nil => rfl
  | cons c rest ih =>
    cases space : isWhitespace c with
    | true =>
      have trimmed : collapse (c :: rest) = collapse rest := by
        rw [collapse, trim, trimWhere, List.dropWhile_cons_of_pos space]
        rfl
      rw [trimmed, ih, respace, if_pos space]
    | false =>
      have trimmed : trim (c :: rest) = (c :: rest).rdropWhile isWhitespace := by
        rw [trim, trimWhere, List.dropWhile_cons_of_neg (by simp [space])]
        rfl
      have word : respace .start (c :: rest) = respace .word (c :: rest) := by
        simp [respace, space]
      rw [collapse, trimmed, word, (respace_inside (c :: rest)).1]

theorem trim_eq_nil_iff : trim text = [] ↔ ∀ c ∈ text, isWhitespace c = true := by
  have trimmed : trim text = (text.dropWhile isWhitespace).rdropWhile isWhitespace := rfl
  rw [trimmed, List.rdropWhile_eq_nil_iff]
  constructor
  · intro blank c member
    rw [← List.takeWhile_append_dropWhile (p := isWhitespace) (l := text)] at member
    rcases List.mem_append.mp member with leading | later
    · exact List.mem_takeWhile_imp leading
    · exact blank c later
  · intro blank c member
    exact blank c ((List.dropWhile_suffix _).mem member)

/-! Texts that stay as they are. -/

/-- Not empty, without whitespace at its ends, and inside only with single spaces. -/
structure WellSpaced (text : List Char) : Prop where
  nonempty : text ≠ []
  first : ∀ c ∈ text.head?, isWhitespace c = false
  last : ∀ c ∈ text.getLast?, isWhitespace c = false
  spaces : ∀ c ∈ text, isWhitespace c = true → c = ' '
  single : ¬ [' ', ' '] <:+: text

theorem respace_of_singleSpaced {within : Bool} (spaced : SingleSpaced within text) :
    (within = true → respace .word text = text) ∧
      (within = false → respace .start text = text ∧ respace .gap text = ' ' :: text) := by
  induction spaced with
  | nil => exact ⟨fun _ => rfl, nofun⟩
  | gap _ ih =>
    have space : isWhitespace ' ' = true := by decide
    refine ⟨fun _ => ?_, nofun⟩
    rw [respace, if_pos space, (ih.2 rfl).2]
  | char visible _ ih => simp [respace, visible, ih.1 rfl]

theorem collapse_of_singleSpaced (spaced : SingleSpaced false text) :
    collapse text = text ∧ trim text ≠ [] := by
  have collapsed : collapse text = text := by
    rw [collapse_eq_respace, ((respace_of_singleSpaced spaced).2 rfl).1]
  refine ⟨collapsed, fun empty => ?_⟩
  obtain ⟨_, _, nonempty, _⟩ := spaced.exists_eq_cons
  rw [collapse, empty, nonempty] at collapsed
  cases collapsed

section Cons
variable {within : Bool} {rest : List Char}

theorem singleSpaced_cons_of_visible (visible : isWhitespace c = false) :
    SingleSpaced within (c :: rest) ↔ SingleSpaced true rest := by
  constructor
  · intro spaced
    cases spaced with
    | gap _ => exact absurd visible (by decide)
    | char _ later => exact later
  · exact .char visible

theorem singleSpaced_cons_of_space (space : isWhitespace c = true) :
    SingleSpaced within (c :: rest) ↔ within = true ∧ c = ' ' ∧ SingleSpaced false rest := by
  constructor
  · intro spaced
    cases spaced with
    | gap later => exact ⟨rfl, rfl, later⟩
    | char visible _ => simp [visible] at space
  · rintro ⟨rfl, rfl, later⟩
    exact .gap later

theorem doubled_cons : [' ', ' '] <:+: c :: rest ↔
    c = ' ' ∧ rest.head? = some ' ' ∨ [' ', ' '] <:+: rest := by
  rw [List.infix_cons_iff]
  cases rest with
  | nil => simp
  | cons d more => simp [eq_comm]

theorem visible_last_cons : (∀ d ∈ (c :: rest).getLast?, isWhitespace d = false) ↔
    (rest = [] → isWhitespace c = false) ∧ ∀ d ∈ rest.getLast?, isWhitespace d = false := by
  cases rest with
  | nil => simp
  | cons d more =>
    rw [List.getLast?_cons_cons]
    simp

theorem singleSpaced_iff : SingleSpaced within text ↔
    (within = false → text ≠ [] ∧ ∀ c ∈ text.head?, isWhitespace c = false) ∧
      (∀ c ∈ text.getLast?, isWhitespace c = false) ∧
        (∀ c ∈ text, isWhitespace c = true → c = ' ') ∧ ¬ [' ', ' '] <:+: text := by
  induction text generalizing within with
  | nil =>
    constructor
    · intro spaced
      cases spaced
      simp
    · rintro ⟨begins, _⟩
      cases within with
      | true => exact .nil
      | false => exact absurd rfl (begins rfl).1
  | cons c rest ih =>
    rw [visible_last_cons, doubled_cons, List.forall_mem_cons]
    cases space : isWhitespace c with
    | false =>
      have other : c ≠ ' ' := by
        rintro rfl
        exact absurd space (by decide)
      rw [singleSpaced_cons_of_visible space, ih]
      simp [space, other]
    | true =>
      -- Among spaces alone, a visible head is one that is no space.
      have head : (∀ d ∈ rest, isWhitespace d = true → d = ' ') →
          ((∀ d ∈ rest.head?, isWhitespace d = false) ↔ rest.head? ≠ some ' ') := by
        intro spaces
        cases rest with
        | nil => simp
        | cons d more =>
          have blank : isWhitespace d = true ↔ d = ' ' :=
            ⟨spaces d List.mem_cons_self, by rintro rfl; decide⟩
          simp [← blank]
      rw [singleSpaced_cons_of_space space, ih]
      cases within with
      | false => simp [space]
      | true => grind

end Cons

theorem singleSpaced_iff_wellSpaced : SingleSpaced false text ↔ WellSpaced text := by
  rw [singleSpaced_iff]
  constructor
  · rintro ⟨begins, last, spaces, single⟩
    exact ⟨(begins rfl).1, (begins rfl).2, last, spaces, single⟩
  · rintro ⟨nonempty, first, last, spaces, single⟩
    exact ⟨fun _ => ⟨nonempty, first⟩, last, spaces, single⟩

end GraphQuery.Text
