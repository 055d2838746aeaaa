import GraphQuery.Proofs.Text.Letters

/-! Places in a text, counted in bytes of UTF-8.

Not every number is a place: it may point into the middle of a character or beyond the end. A word is cut
off a text by its own length, and that is a place in the text only if its characters take as many bytes as
those that it was compared with. -/

set_option autoImplicit false

namespace GraphQuery.Text

def byteLength (text : List Char) : Nat :=
  (String.ofList text).utf8ByteSize

def splitAtByte? : Nat → List Char → Option (List Char × List Char)
  | 0, text => some ([], text)
  | _ + 1, [] => none
  | n + 1, c :: text =>
    if c.utf8Size ≤ n + 1 then
      (splitAtByte? (n + 1 - c.utf8Size) text).map fun (before, rest) => (c :: before, rest)
    else none

variable {c : Char} {n : Nat} {text before rest other word : List Char}

/-! Lengths. -/

@[simp] theorem byteLength_nil : byteLength [] = 0 := rfl

@[simp] theorem byteLength_append (first second : List Char) :
    byteLength (first ++ second) = byteLength first + byteLength second := by
  rw [byteLength, String.ofList_append, String.utf8ByteSize_append]
  rfl

@[simp] theorem byteLength_cons (c : Char) (text : List Char) :
    byteLength (c :: text) = c.utf8Size + byteLength text := by
  have single : byteLength [c] = c.utf8Size := by
    simp [byteLength, String.utf8ByteSize_singleton]
  rw [← single, ← byteLength_append, List.singleton_append]

theorem byteLength_le_of_suffix (suffix : rest <:+ text) : byteLength rest ≤ byteLength text := by
  obtain ⟨before, rfl⟩ := suffix
  rw [byteLength_append]
  omega

theorem eq_nil_of_byteLength (none : byteLength text = 0) : text = [] := by
  cases text with
  | nil => rfl
  | cons c rest =>
    have := c.utf8Size_pos
    rw [byteLength_cons] at none
    omega

/-- Of two ends of a text the longer one has more bytes. -/
theorem byteLength_lt_iff (suffix : rest <:+ text) (suffix' : other <:+ text) :
    byteLength rest < byteLength other ↔ rest.length < other.length := by
  have strict : ∀ {short long : List Char}, short <:+ long → short.length < long.length →
      byteLength short < byteLength long := by
    rintro short _ ⟨before, rfl⟩ shorter
    have nonempty : byteLength before ≠ 0 := fun none => by
      rw [eq_nil_of_byteLength none] at shorter
      exact Nat.lt_irrefl _ shorter
    rw [byteLength_append]
    omega
  rcases List.suffix_or_suffix_of_suffix suffix suffix' with inside | inside
  · refine ⟨fun less => Nat.lt_of_le_of_ne inside.length_le fun same => ?_, strict inside⟩
    rw [inside.eq_of_length same] at less
    omega
  · have := byteLength_le_of_suffix inside
    have := inside.length_le
    omega

theorem utf8Size_of_ascii (ascii : c.toNat < 0x80) : c.utf8Size = 1 := by
  have small : c.val ≤ 0x7f := by
    rw [UInt32.le_iff_toNat_le]
    exact Nat.le_of_lt_succ ascii
  exact Char.utf8Size_eq_one_iff.mpr small

theorem byteLength_of_ascii (ascii : ∀ c ∈ text, c.toNat < 0x80) : byteLength text = text.length := by
  induction text with
  | nil => rfl
  | cons c rest ih =>
    obtain ⟨first, others⟩ := List.forall_mem_cons.mp ascii
    rw [byteLength_cons, utf8Size_of_ascii first, ih others, List.length_cons]
    omega

/-! Places. -/

theorem splitAtByte?_append (before rest : List Char) :
    splitAtByte? (byteLength before) (before ++ rest) = some (before, rest) := by
  induction before with
  | nil => exact splitAtByte?.eq_1 rest
  | cons c before ih =>
    have positive := c.utf8Size_pos
    obtain ⟨n, size⟩ : ∃ n, byteLength (c :: before) = n + 1 :=
      Nat.exists_eq_add_one.mpr (by rw [byteLength_cons]; omega)
    have behind : n + 1 - c.utf8Size = byteLength before := by
      rw [← size, byteLength_cons]
      omega
    have fits : c.utf8Size ≤ n + 1 := by
      rw [← size, byteLength_cons]
      omega
    rw [size, List.cons_append, splitAtByte?, if_pos fits, behind, ih, Option.map_some]

theorem eq_append_of_splitAtByte? (split : splitAtByte? n text = some (before, rest)) :
    text = before ++ rest ∧ byteLength before = n := by
  fun_induction splitAtByte? n text generalizing before with
  | case1 text =>
    cases split
    exact ⟨rfl, rfl⟩
  | case2 => cases split
  | case3 n c text fits ih =>
    obtain ⟨⟨inside, behind⟩, found, same⟩ := Option.map_eq_some_iff.mp split
    obtain ⟨rfl, rfl⟩ := Prod.mk.inj same
    obtain ⟨rfl, size⟩ := ih found
    refine ⟨rfl, ?_⟩
    rw [byteLength_cons, size]
    omega
  | case4 => cases split

/-- A place is where a text can be cut between two characters. -/
theorem splitAtByte?_eq_some :
    splitAtByte? n text = some (before, rest) ↔ text = before ++ rest ∧ byteLength before = n := by
  refine ⟨eq_append_of_splitAtByte?, ?_⟩
  rintro ⟨rfl, rfl⟩
  exact splitAtByte?_append before rest

theorem splitAtByte?_of_suffix (suffix : rest <:+ text) :
    splitAtByte? (byteLength text - byteLength rest) text =
      some (text.take (text.length - rest.length), rest) := by
  obtain ⟨before, rfl⟩ := suffix
  have place : byteLength (before ++ rest) - byteLength rest = byteLength before := by
    rw [byteLength_append]
    omega
  rw [place, splitAtByte?_append]
  simp

/-! Words. -/

/-- Whether a text begins like a word, letter case aside. Characters are compared as far as there are any,
and bytes are counted. -/
def beginsLike (word text : List Char) : Bool :=
  (text.zip word).all (fun (c, letter) => lowerChar c == lowerChar letter) &&
    byteLength word ≤ byteLength text

theorem byteLength_of_isAlpha (letters : ∀ c ∈ text, c.isAlpha = true) :
    byteLength text = text.length :=
  byteLength_of_ascii fun c member => toNat_lt_of_isAlpha (letters c member)

theorem byteLength_of_plain (plain : ∀ c ∈ word, Plain c) : byteLength word = word.length :=
  byteLength_of_isAlpha fun c member => (plain c member).isAlpha

theorem all_zip_eq (word text : List Char) :
    (text.zip word).all (fun (c, letter) => lowerChar c == lowerChar letter) =
      equalFold (text.take word.length) (word.take text.length) := by
  induction text generalizing word with
  | nil => simp [equalFold]
  | cons c rest ih =>
    cases word with
    | nil => simp [equalFold]
    | cons letter word =>
      have others := ih word
      simp only [equalFold] at others ⊢
      rw [List.zip_cons_cons, List.all_cons, others]
      simp only [List.length_cons, List.take_succ_cons, List.map_cons]
      rfl

theorem beginsLike_eq (plain : ∀ c ∈ word, Plain c) (text : List Char) :
    beginsLike word text = equalFold (text.take word.length) word := by
  rw [beginsLike, all_zip_eq, byteLength_of_plain plain]
  rcases Nat.lt_or_ge text.length word.length with short | long
  · -- All that is compared is ASCII, so a shorter text has too few bytes.
    have compared : ∀ c ∈ word.take text.length, Plain c := fun c member =>
      plain c (List.mem_of_mem_take member)
    have differ : equalFold (text.take word.length) word = false := by
      refine Bool.eq_false_iff.mpr fun same => ?_
      have := length_eq_of_equalFold same
      rw [List.length_take] at this
      omega
    rw [differ]
    refine Bool.eq_false_iff.mpr fun alike => ?_
    obtain ⟨same, fits⟩ := Bool.and_eq_true_iff.mp alike
    have letters := isAlpha_of_equalFold compared same
    rw [List.take_of_length_le (Nat.le_of_lt short)] at letters
    rw [decide_eq_true_eq, byteLength_of_isAlpha letters] at fits
    omega
  · rw [List.take_of_length_le long, Bool.and_eq_left_iff_imp, decide_eq_true_eq]
    intro same
    have begun : text.take word.length <+: text := List.take_prefix ..
    have size := byteLength_of_isAlpha (isAlpha_of_equalFold plain same)
    rw [length_eq_of_equalFold same] at size
    rw [← List.take_append_drop word.length text, byteLength_append, size]
    omega

theorem ascii_of_beginsLike (plain : ∀ c ∈ word, Plain c) (alike : beginsLike word text = true) :
    byteLength (text.take word.length) = byteLength word ∧
      (text.take word.length).length = byteLength word ∧ ∀ c ∈ text.take word.length, c.toNat < 0x80 := by
  rw [beginsLike_eq plain] at alike
  have letters := isAlpha_of_equalFold plain alike
  have same := length_eq_of_equalFold alike
  rw [byteLength_of_isAlpha letters, byteLength_of_plain plain]
  exact ⟨same, same, fun c member => toNat_lt_of_isAlpha (letters c member)⟩

theorem splitAtByte?_of_beginsLike (plain : ∀ c ∈ word, Plain c) (alike : beginsLike word text = true) :
    splitAtByte? (byteLength word) text = some (text.take word.length, text.drop word.length) :=
  splitAtByte?_eq_some.mpr ⟨(List.take_append_drop ..).symm, (ascii_of_beginsLike plain alike).1⟩

end GraphQuery.Text
