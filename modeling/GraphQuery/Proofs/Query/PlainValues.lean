import GraphQuery.Proofs.Query.Clarity

/-! Values of plain words are clear, whatever stands before and after them.

Everything that might be taken to begin inside such a value begins with a fixed word and a gap. -/

set_option autoImplicit false

namespace GraphQuery.Query

open Text Grammar Query.Language

variable {text rest : List Char}

/-- Words with single blanks between them, none of them a fixed word in any letter case. -/
def Wordy (text : List Char) : Prop :=
  ∀ word ∈ text.splitOnP isBlank, word ≠ [] ∧
    ∀ fixed ∈ fixedWords, equalFold word fixed.toList = false

structure PlainValue (read : List Char) : Prop where
  wordy : Wordy read
  unquoted : read.head? ≠ some '"' ∧ read.head? ≠ some '\''

theorem Wordy.tail {before after : List Char} (wordy : Wordy (before ++ ' ' :: after)) :
    Wordy after := by
  intro word member
  refine wordy word ?_
  rw [List.splitOnP_append_cons before after (show isBlank ' ' = true from rfl)]
  exact List.mem_append_right _ member

theorem exists_first_word (text : List Char) :
    ∃ first more, text = first ++ more ∧ first ∈ text.splitOnP isBlank ∧
      (∀ c ∈ first, isBlank c = false) ∧ ∀ c ∈ more.head?, isBlank c = true := by
  have split := List.takeWhile_append_dropWhile (p := (!isBlank ·)) (l := text)
  have solid : ∀ c ∈ text.takeWhile (!isBlank ·), isBlank c = false := fun c member => by
    simpa using List.mem_takeWhile_imp member
  cases after : text.dropWhile (!isBlank ·) with
  | nil =>
    rw [after, List.append_nil] at split
    rw [split] at solid
    exact ⟨text, [], (List.append_nil text).symm, by simp [List.splitOnP_eq_singleton solid], solid,
      by simp⟩
  | cons c more =>
    have blank : isBlank c = true := by
      have notPassed := List.head?_dropWhile_not (!isBlank ·) text
      rw [after] at notPassed
      simpa using notPassed
    rw [after] at split
    refine ⟨text.takeWhile (!isBlank ·), c :: more, split.symm, ?_, solid, by simpa using blank⟩
    -- The first part is the text in front of the first blank.
    have words := List.splitOnP_append_cons_of_forall_mem solid c blank more
    rw [split] at words
    rw [words]
    exact List.mem_cons_self

theorem Wordy.solid (wordy : Wordy text) : Solid text ∧ text ≠ [] := by
  obtain ⟨first, more, rfl, member, solid, _⟩ := exists_first_word text
  obtain ⟨nonempty, _⟩ := wordy first member
  cases first with
  | nil => exact absurd rfl nonempty
  | cons c first => exact ⟨solid_cons.mpr (solid c List.mem_cons_self), List.cons_ne_nil _ _⟩

/-- No fixed word with a gap after it begins a text of words. -/
theorem Wordy.not_starts (wordy : Wordy text) (bounded : rest = [] ∨ rest.head? = some ' ')
    {word : String} (fixed : word ∈ fixedWords) :
    ¬ Starts (Sequence [Word word, Gap]) (text ++ rest) := by
  rintro ⟨_, middle, ⟨found, split, same, _⟩, blanks, nonempty, blank, rfl⟩
  obtain ⟨first, more, rfl, member, solid, ends⟩ := exists_first_word text
  have letters : ∀ c ∈ found, (!isBlank c) = true := fun c inside => by
    rw [not_isBlank_of_isAlpha ((lettered_of_equalFold fixed same).2 c inside)]
    rfl
  -- Both end at the first blank, so they are the same word.
  have runs : found = first := by
    have whole := congrArg (List.takeWhile (!isBlank ·)) split
    have stops : (more ++ rest).takeWhile (!isBlank ·) = [] := by
      cases more with
      | nil =>
        cases rest with
        | nil => rfl
        | cons c _ =>
          obtain rfl : c = ' ' := by simpa using bounded
          rfl
      | cons c _ => simp [ends c rfl]
    obtain ⟨c, tail, rfl⟩ := List.exists_cons_of_ne_nil nonempty
    rw [List.append_assoc, List.takeWhile_append_of_pos (by simpa using solid), stops,
      List.takeWhile_append_of_pos letters, List.cons_append,
      List.takeWhile_cons_of_neg (by simp [blank c List.mem_cons_self])] at whole
    simpa using whole.symm
  subst runs
  exact Bool.false_ne_true (((wordy found member).2 word fixed).symm.trans same)

variable {grammar : Grammar} {entry : TypeEntry} {cue : Cue}

theorem not_starts_of_oneOf {words : List String} (fixed : ∀ word ∈ words, word ∈ fixedWords)
    (wordy : Wordy text) (bounded : rest = [] ∨ rest.head? = some ' ') {middle after : List Char}
    (said : OneOf words (text ++ rest) middle) : ¬ Gap middle after := by
  obtain ⟨word, member, said⟩ := said
  exact fun gap => wordy.not_starts bounded (fixed word member) ⟨after, middle, said, gap⟩

theorem clearBare_of_plain {read : List Char} (plain : PlainValue read)
    (bounded : rest = [] ∨ rest.head? = some ' ') : ClearBare grammar entry cue read rest where
  solid := plain.wordy.solid.1
  unquoted quote inside opens same := by
    have other := plain.unquoted
    rw [same] at other
    rcases opens with rfl | rfl
    · exact absurd rfl other.1
    · exact absurd rfl other.2
  unbroken before after same := by
    rintro ⟨_, middle, gap, hop⟩
    have wordy : Wordy after := Wordy.tail (same ▸ plain.wordy)
    obtain ⟨solid, nonempty⟩ := wordy.solid
    -- A word comes right behind the blank, so this is the whole gap.
    have single : Gap (' ' :: after ++ rest) (after ++ rest) := ⟨[' '], by simp, by simp [isBlank], rfl⟩
    rcases hop with ⟨_, _, _, opener, _, behind, _⟩ | ⟨_, connective, _, behind, _⟩
    · obtain rfl := gap_unique single (solid.append nonempty) gap (solid_of_oneOf openers_fixed opener)
      exact not_starts_of_oneOf openers_fixed wordy bounded opener behind
    · obtain rfl := gap_unique single (solid.append nonempty) gap
        (solid_of_oneOf connectives_fixed connective)
      exact not_starts_of_oneOf connectives_fixed wordy bounded connective behind
  bounded := bounded
  plain := by
    rintro - lookup ⟨_, words, member, said⟩
    have fixed := fixed_of_mem_lookupPhrases member
    obtain ⟨first, _, _, rfl⟩ := long_of_mem_lookupPhrases member
    obtain ⟨_, word, _, gap, _⟩ := said
    exact plain.wordy.not_starts bounded (fixed first List.mem_cons_self) ⟨_, _, word, gap⟩
  unfilled _ := plain.wordy.not_starts bounded (by decide)

end GraphQuery.Query
