import GraphQuery.Text.Boundary
import GraphQuery.Text.Case
import Mathlib.Data.List.Basic
import Mathlib.Tactic.Tauto

/-! Words of ASCII letters, and how letter case acts on them.

A character beyond ASCII may be folded onto an ASCII letter: the sign for kelvin onto `k`. It is the
only one, so a text that equals a word without a `k`, letter case aside, consists of ASCII letters. -/

set_option autoImplicit false

namespace GraphQuery.Text

variable {c letter : Char} {word other found : List Char}

def Lettered (word : List Char) : Prop :=
  word ≠ [] ∧ ∀ c ∈ word, c.isAlpha = true

instance : DecidablePred Lettered :=
  fun word => decidable_of_iff (word ≠ [] ∧ word.all Char.isAlpha = true) (by simp [Lettered])

theorem toNat_lt_of_isAlpha (alpha : c.isAlpha = true) : c.toNat < 0x80 := by
  unfold Char.isAlpha Char.isUpper Char.isLower at alpha
  simp only [Bool.or_eq_true, decide_eq_true_eq, Bool.and_eq_true, UInt32.le_iff_toNat_le,
    ge_iff_le] at alpha
  unfold Char.toNat
  have capital : 'Z'.val.toNat = 90 := rfl
  have small : 'z'.val.toNat = 122 := rfl
  omega

/-- What holds of the code points of ASCII, one by one, holds of its characters. -/
theorem ascii_induction {P : Char → Prop} (table : ∀ n < 0x80, P (Char.ofNat n))
    (ascii : c.toNat < 0x80) : P c := by
  have found := table c.toNat ascii
  rwa [Char.ofNat_toNat] at found

theorem isAlpha_toLower (alpha : c.isAlpha = true) : c.toLower.isAlpha = true :=
  ascii_induction (P := fun c => c.isAlpha = true → c.toLower.isAlpha = true) (by decide)
    (toNat_lt_of_isAlpha alpha) alpha

theorem isAlpha_toUpper (alpha : c.isAlpha = true) : c.toUpper.isAlpha = true :=
  ascii_induction (P := fun c => c.isAlpha = true → c.toUpper.isAlpha = true) (by decide)
    (toNat_lt_of_isAlpha alpha) alpha

theorem lowerChar_of_isAlpha (alpha : c.isAlpha = true) : lowerChar c = [c.toLower] :=
  if_pos (toNat_lt_of_isAlpha alpha)

theorem upperChar_of_isAlpha (alpha : c.isAlpha = true) : upperChar c = [c.toUpper] :=
  if_pos (toNat_lt_of_isAlpha alpha)

theorem Lettered.map {change : Char → Char} (lettered : Lettered word)
    (keeps : ∀ {c : Char}, c.isAlpha = true → (change c).isAlpha = true) :
    Lettered (word.map change) := by
  refine ⟨by simpa using lettered.1, fun c member => ?_⟩
  obtain ⟨original, inside, rfl⟩ := List.mem_map.mp member
  exact keeps (lettered.2 original inside)

theorem flatMap_lowerChar (letters : ∀ c ∈ word, c.isAlpha = true) :
    word.flatMap lowerChar = word.map Char.toLower := by
  rw [List.map_eq_flatMap]
  exact List.flatMap_congr fun c member => lowerChar_of_isAlpha (letters c member)

theorem uppercase_of_letters (letters : ∀ c ∈ word, c.isAlpha = true) :
    uppercase word = word.map Char.toUpper := by
  rw [uppercase, List.map_eq_flatMap]
  exact List.flatMap_congr fun c member => upperChar_of_isAlpha (letters c member)

theorem lowercaseAfter_of_letters (letters : ∀ c ∈ word, c.isAlpha = true) (before : List Char) :
    lowercaseAfter before word = word.map Char.toLower := by
  induction word generalizing before with
  | nil => rfl
  | cons c rest ih =>
    have alpha := letters c List.mem_cons_self
    have other : c ≠ 'Σ' := by
      rintro rfl
      exact absurd alpha (by decide)
    rw [lowercaseAfter, if_neg other, lowerChar_of_isAlpha alpha,
      ih fun d member => letters d (List.mem_cons_of_mem c member)]
    rfl

theorem isWordChar_of_isAlpha (alpha : c.isAlpha = true) : isWordChar c = true := by
  simp [isWordChar, isAlphanumeric, Char.isAlphanum, alpha]

/-! Folding. -/

/-- A letter that only its capital and itself are folded onto. -/
def Plain (letter : Char) : Prop :=
  letter.isLower = true ∧ letter ≠ 'k'

instance : DecidablePred Plain :=
  fun letter => inferInstanceAs (Decidable (letter.isLower = true ∧ letter ≠ 'k'))

theorem Plain.isAlpha (plain : Plain letter) : letter.isAlpha = true := by
  unfold Char.isAlpha
  rw [plain.1, Bool.or_true]

theorem Plain.lowerChar_eq (plain : Plain letter) : lowerChar letter = [letter] := by
  rw [lowerChar_of_isAlpha plain.isAlpha]
  exact ascii_induction (P := fun c => c.isLower = true → [c.toLower] = [c]) (by decide)
    (toNat_lt_of_isAlpha plain.isAlpha) plain.1

theorem length_of_mem_lowercaseExpansions :
    ∀ entry ∈ lowercaseExpansions, entry.2.length ≠ 1 := by
  decide

/-- The images of all runs but one lie beyond ASCII, and that one is the single sign for kelvin. -/
theorem image_of_mem_lowercaseRuns :
    ∀ run ∈ lowercaseRuns, 0x80 ≤ run.image ∨ run.first = run.last ∧ run.image = 'k'.toNat := by
  decide +kernel

theorem eq_of_ofNat_eq {n : Nat} (same : Char.ofNat n = letter) (plain : Plain letter) :
    n = letter.toNat := by
  by_cases valid : n.isValidChar
  · rw [← same, Char.ofNat, dif_pos valid]
    rfl
  · rw [Char.ofNat, dif_neg valid] at same
    subst same
    exact absurd plain.1 (by decide)

theorem isAlpha_of_lowerChar_eq (same : lowerChar c = [letter]) (plain : Plain letter) :
    c.isAlpha = true := by
  have small := toNat_lt_of_isAlpha plain.isAlpha
  by_cases ascii : c.toNat < 0x80
  · rw [lowerChar, if_pos ascii, List.singleton_inj] at same
    have alpha := plain.isAlpha
    rw [← same] at alpha
    exact ascii_induction (P := fun c => c.toLower.isAlpha = true → c.isAlpha = true) (by decide)
      ascii alpha
  -- No other character is folded onto a single plain letter.
  exfalso
  rw [lowerChar, if_neg ascii, mapCase] at same
  split at same
  · next image found =>
    have single := congrArg List.length same
    rw [List.length_map, List.length_singleton] at single
    obtain ⟨before, after, entries, -⟩ := List.lookup_eq_some_iff.mp found
    refine length_of_mem_lowercaseExpansions (c.toNat, image) ?_ single
    rw [entries]
    exact List.mem_append_right before List.mem_cons_self
  · split at same
    · next run found =>
      have image := eq_of_ofNat_eq (List.singleton_inj.mp same) plain
      unfold CaseRun.apply at image
      rcases image_of_mem_lowercaseRuns run (List.mem_of_find?_eq_some found) with large | kelvin
      · omega
      · have covers := List.find?_some found
        simp only [CaseRun.covers, Bool.and_eq_true, decide_eq_true_eq] at covers
        refine plain.2 (Char.toNat_inj.mp ?_)
        omega
    · rw [List.singleton_inj] at same
      exact ascii (same ▸ small)

theorem isAlpha_of_equalFold (plain : ∀ c ∈ word, Plain c) (same : equalFold found word = true) :
    ∀ c ∈ found, c.isAlpha = true := by
  intro c member
  have images : found.map lowerChar = word.map lowerChar := by simpa [equalFold] using same
  have image : lowerChar c ∈ word.map lowerChar := images ▸ List.mem_map_of_mem member
  obtain ⟨letter, inside, same⟩ := List.mem_map.mp image
  exact isAlpha_of_lowerChar_eq (same.symm.trans (plain letter inside).lowerChar_eq) (plain letter inside)

theorem length_eq_of_equalFold (same : equalFold found word = true) : found.length = word.length := by
  have images : found.map lowerChar = word.map lowerChar := by simpa [equalFold] using same
  simpa using congrArg List.length images

theorem eq_of_equalFold (plain : ∀ c ∈ word, Plain c) (plain' : ∀ c ∈ other, Plain c)
    (same : equalFold found word = true) (same' : equalFold found other = true) : word = other := by
  have images : word.map lowerChar = other.map lowerChar := by
    simp only [equalFold, beq_iff_eq] at same same'
    exact same.symm.trans same'
  rw [List.map_congr_left fun c member => (plain c member).lowerChar_eq,
    List.map_congr_left fun c member => (plain' c member).lowerChar_eq] at images
  exact List.map_injective_iff.mpr (fun _ _ same => List.singleton_inj.mp same) images

end GraphQuery.Text
