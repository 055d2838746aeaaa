import GraphQuery.Proofs.Text.Letters
import GraphQuery.Text.Whitespace
import Mathlib.Data.List.DropRight

/-! Words with single spaces between them, and how letter case acts on them.

No case mapping drops a character, and none makes whitespace of anything else. So a name keeps the spaces
between its words in every spelling, and gets no others. -/

set_option autoImplicit false

namespace GraphQuery.Text

variable {c : Char} {text : List Char}

/-- Words with single spaces between them, from within a word on or, if none stands right before, from the
start of one. -/
inductive SingleSpaced : Bool → List Char → Prop where
  | nil : SingleSpaced true []
  | gap {rest : List Char} : SingleSpaced false rest → SingleSpaced true (' ' :: rest)
  | char {within : Bool} {c : Char} {rest : List Char} :
      isWhitespace c = false → SingleSpaced true rest → SingleSpaced within (c :: rest)

namespace SingleSpaced
variable {within : Bool}

theorem append {image rest : List Char} (nonempty : image ≠ [])
    (visible : ∀ c ∈ image, isWhitespace c = false) (spaced : SingleSpaced true rest) :
    SingleSpaced within (image ++ rest) := by
  induction image generalizing within with
  | nil => exact absurd rfl nonempty
  | cons c image ih =>
    obtain ⟨first, others⟩ := List.forall_mem_cons.mp visible
    by_cases last : image = []
    · subst last
      exact .char first spaced
    · exact .char first (ih last others)

theorem concat (spaced : SingleSpaced within text) (visible : isWhitespace c = false) :
    SingleSpaced within (text ++ [c]) := by
  induction spaced with
  | nil => exact .char visible .nil
  | gap _ ih => exact .gap ih
  | char first _ ih => exact .char first ih

theorem exists_eq_cons (spaced : SingleSpaced false text) :
    ∃ c rest, text = c :: rest ∧ isWhitespace c = false := by
  cases spaced with
  | char visible _ => exact ⟨_, _, rfl, visible⟩

end SingleSpaced

/-! Collapsing. -/

theorem singleSpaced_squeeze {within : Bool} (last : ∀ c ∈ text.getLast?, isWhitespace c = false)
    (begins : within = true ∨ ∃ c rest, text = c :: rest ∧ isWhitespace c = false) :
    SingleSpaced within (squeeze text) := by
  induction text generalizing within with
  | nil =>
    obtain rfl | ⟨_, _, nothing, _⟩ := begins
    · exact .nil
    · cases nothing
  | cons c rest ih =>
    have tail : ∀ d ∈ rest.getLast?, isWhitespace d = false := by
      intro d final
      refine last d ?_
      rw [List.getLast?_cons, Option.mem_def.mp final]
      rfl
    by_cases space : isWhitespace c = true
    · obtain rfl : within = true := by
        obtain inside | ⟨_, _, same, visible⟩ := begins
        · exact inside
        · rw [(List.cons.inj same).1, visible] at space
          cases space
      -- Of a run the last character is written, and the text does not end with one.
      cases rest with
      | nil =>
        rw [last c rfl] at space
        cases space
      | cons d rest =>
        rw [squeeze, if_pos space]
        split
        · exact ih tail (.inl rfl)
        · next word => exact .gap (ih tail (.inr ⟨d, rest, rfl, by simpa using word⟩))
    · rw [squeeze.eq_def]
      simp only [if_neg space]
      exact .char (by simpa using space) (ih tail (.inl rfl))

theorem visible_of_head_dropWhile (head : c ∈ (text.dropWhile isWhitespace).head?) :
    isWhitespace c = false := by
  have stopped := List.head?_dropWhile_not isWhitespace text
  rw [Option.mem_def.mp head] at stopped
  simpa using stopped

theorem singleSpaced_collapse (nonempty : trim text ≠ []) : SingleSpaced false (collapse text) := by
  refine singleSpaced_squeeze (fun c final => ?_) (.inr ?_)
  · rw [trim, trimWhere, List.getLast?_reverse] at final
    exact visible_of_head_dropWhile final
  · -- What is dropped at the end leaves the first character as it is.
    obtain ⟨c, rest, begins⟩ := List.exists_cons_of_ne_nil nonempty
    obtain ⟨dropped, whole⟩ : trim text <+: text.dropWhile isWhitespace :=
      List.rdropWhile_prefix isWhitespace _
    have first : c ∈ (text.dropWhile isWhitespace).head? := by
      rw [← whole, begins]
      rfl
    exact ⟨c, rest, begins, visible_of_head_dropWhile first⟩

/-! Case mappings. -/

theorem isWhitespace_ofNat {n : Nat} (white : isWhitespace (Char.ofNat n) = true) :
    ∃ range ∈ whitespaceRanges, range.1 ≤ n ∧ n ≤ range.2 := by
  by_cases valid : n.isValidChar
  · rw [isWhitespace, Ranges.contains_iff, Char.ofNat, dif_pos valid] at white
    exact white
  · rw [Char.ofNat, dif_neg valid] at white
    exact absurd white (by decide)

def NoWhitespace (first last : Nat) : Prop :=
  ∀ range ∈ whitespaceRanges, last < range.1 ∨ range.2 < first

instance (first last : Nat) : Decidable (NoWhitespace first last) :=
  inferInstanceAs (Decidable (∀ range ∈ whitespaceRanges, last < range.1 ∨ range.2 < first))

theorem visible_of_noWhitespace {first last n : Nat} (clear : NoWhitespace first last) (above : first ≤ n)
    (below : n ≤ last) : isWhitespace (Char.ofNat n) = false := by
  rw [Bool.eq_false_iff]
  intro white
  obtain ⟨range, member, low, high⟩ := isWhitespace_ofNat white
  have := clear range member
  omega

def Visible (image : List Char) : Prop :=
  image ≠ [] ∧ ∀ c ∈ image, isWhitespace c = false

theorem visible_singleton (visible : isWhitespace c = false) : Visible [c] :=
  ⟨List.cons_ne_nil c [], by simpa using visible⟩

theorem visible_mapCase {expansions : List (Nat × List Nat)} {runs : List CaseRun}
    (expanded : ∀ entry ∈ expansions, entry.2 ≠ [] ∧ ∀ n ∈ entry.2, NoWhitespace n n)
    (moved : ∀ run ∈ runs, NoWhitespace run.image (run.apply run.last)) (visible : isWhitespace c = false) :
    Visible (mapCase expansions runs c) := by
  unfold mapCase
  split
  · next image found =>
    obtain ⟨before, after, entries, -⟩ := List.lookup_eq_some_iff.mp found
    obtain ⟨nonempty, clear⟩ := expanded (c.toNat, image) (by simp [entries])
    refine ⟨by simpa using nonempty, List.forall_mem_map.mpr fun n member => ?_⟩
    exact visible_of_noWhitespace (clear n member) (Nat.le_refl n) (Nat.le_refl n)
  · split
    · next run found =>
      have covers := List.find?_some found
      simp only [CaseRun.covers, Bool.and_eq_true, decide_eq_true_eq] at covers
      refine visible_singleton (visible_of_noWhitespace (moved run (List.mem_of_find?_eq_some found)) ?_ ?_)
      · exact Nat.le_add_right _ _
      · unfold CaseRun.apply
        omega
    · exact visible_singleton visible

theorem visible_lowerChar (visible : isWhitespace c = false) : Visible (lowerChar c) := by
  unfold lowerChar
  split
  · next ascii =>
    refine visible_singleton (ascii_induction (P := fun c =>
      isWhitespace c = false → isWhitespace c.toLower = false) (by decide +kernel) ascii visible)
  · exact visible_mapCase (by decide +kernel) (by decide +kernel) visible

theorem visible_upperChar (visible : isWhitespace c = false) : Visible (upperChar c) := by
  unfold upperChar
  split
  · next ascii =>
    refine visible_singleton (ascii_induction (P := fun c =>
      isWhitespace c = false → isWhitespace c.toUpper = false) (by decide +kernel) ascii visible)
  · exact visible_mapCase (by decide +kernel) (by decide +kernel) visible

/-! Spellings. -/

theorem SingleSpaced.flatMap {within : Bool} {image : Char → List Char}
    (visible : ∀ {c : Char}, isWhitespace c = false → Visible (image c)) (space : image ' ' = [' '])
    (spaced : SingleSpaced within text) : SingleSpaced within (text.flatMap image) := by
  induction spaced with
  | nil => exact .nil
  | gap _ ih =>
    rw [List.flatMap_cons, space]
    exact .gap ih
  | char first _ ih =>
    rw [List.flatMap_cons]
    exact .append (visible first).1 (visible first).2 ih

theorem SingleSpaced.lowercaseAfter {within : Bool} (spaced : SingleSpaced within text)
    (before : List Char) : SingleSpaced within (lowercaseAfter before text) := by
  induction spaced generalizing before with
  | nil => exact .nil
  | gap _ ih =>
    rw [Text.lowercaseAfter, if_neg (by decide), show lowerChar ' ' = [' '] by decide]
    exact .gap (ih _)
  | @char _ c rest visible _ ih =>
    have sigma : ∀ final : Bool, Visible [if final then 'ς' else 'σ'] := by
      intro final
      cases final <;> exact visible_singleton (by decide)
    rw [Text.lowercaseAfter]
    split
    · exact .append (sigma _).1 (sigma _).2 (ih _)
    · exact .append (visible_lowerChar visible).1 (visible_lowerChar visible).2 (ih _)

theorem SingleSpaced.lowercase (spaced : SingleSpaced false text) :
    SingleSpaced false (lowercase text) :=
  spaced.lowercaseAfter []

theorem SingleSpaced.uppercase (spaced : SingleSpaced false text) :
    SingleSpaced false (uppercase text) :=
  spaced.flatMap visible_upperChar (by decide)

theorem SingleSpaced.capitalize (spaced : SingleSpaced false text) :
    SingleSpaced false (capitalize text) := by
  cases spaced with
  | char visible later =>
    exact .append (visible_upperChar visible).1 (visible_upperChar visible).2
      (later.flatMap visible_lowerChar (by decide))

end GraphQuery.Text
