import GraphQuery.Json.Scanner
import GraphQuery.Json.Writer
import GraphQuery.Proofs.Decimal.Double
import GraphQuery.Proofs.Text.Digits

/-! Numbers and strings are read back from what is written of them, and what follows is left. -/

set_option autoImplicit false

namespace GraphQuery.Json

open Text

/-! Readers one after the other. -/

section Sequence
variable {α β : Type} {text rest : List Char} {value : α}

theorem ok_bind (value : α) (next : α → Except Fault β) :
    (Except.ok value >>= next) = next value := rfl

theorem bind_of_read {first : Reader α} {next : α → Reader β}
    (read : first text = .ok (value, rest)) :
    (first >>= next) text = next value rest := by
  show (first text >>= fun read => next read.1 read.2) = _
  rw [read]
  rfl

theorem map_of_read {reader : Reader α} (change : α → β)
    (read : reader text = .ok (value, rest)) :
    (change <$> reader) text = .ok (change value, rest) := by
  show (reader text >>= fun read => Except.ok (change read.1, read.2)) = _
  rw [read]
  rfl

end Sequence

/-! Whole numbers. -/

/-- Where a value may end: nothing follows, or what comes after an item or a member. -/
def Ends (rest : List Char) : Prop :=
  ∀ c ∈ rest.head?, c = ',' ∨ c = ']' ∨ c = '}'

theorem Ends.not_isDigit {rest : List Char} (ends : Ends rest) :
    ∀ c ∈ rest.head?, c.isDigit = false := by
  intro c head
  rcases ends c head with rfl | rfl | rfl <;> decide

theorem takeDigits_of_lt {value : Nat} {digits : List Char}
    (small : digits.foldl (fun value digit => value * 10 + digitValue digit) value < UInt64.size) :
    Number.takeDigits value digits =
      (digits.foldl (fun value digit => value * 10 + digitValue digit) value, []) := by
  have grows : ∀ (digits : List Char) (value : Nat),
      value ≤ digits.foldl (fun value digit => value * 10 + digitValue digit) value := by
    intro digits
    induction digits with
    | nil => exact fun value => Nat.le_refl value
    | cons digit rest ih =>
      intro value
      have := ih (value * 10 + digitValue digit)
      rw [List.foldl_cons]
      omega
  induction digits generalizing value with
  | nil => rfl
  | cons digit rest ih =>
    rw [List.foldl_cons] at small ⊢
    rw [Number.takeDigits, if_pos (Nat.lt_of_le_of_lt (grows rest _) small), ih small]

theorem isSome_toDouble {n : Nat} (small : n < UInt64.size) :
    (Number.toDouble? { whole := n }).isSome = true := by
  have digits : Number.takeDigits 0 (Nat.toDigits 10 n) = (n, []) := by
    have value := digitsValue_toDigits n
    unfold digitsValue at value
    rw [takeDigits_of_lt (value.symm ▸ small), value]
  have scaled : Number.scaled { whole := n } = (n, 0) := by
    simp [Number.scaled, digits, Number.takeDigits]
  -- There is nothing to scale by, but the value is multiplied by the zeroth power of ten all the same.
  have start := Double.fraction_ofNat_lt small
  have unit : (Double.powerOfTen 0).fraction.1 < 2 ^ 128 := Double.fraction_ofNat_lt (by decide)
  unfold Number.toDouble?
  rw [scaled]
  dsimp only
  by_cases zero : n = 0
  · rw [if_pos zero]
    rfl
  · rw [if_neg zero, if_neg (by decide), if_pos (by decide), Int.toNat_zero,
      Double.isFinite_mul start unit]
    rfl

theorem readDigits_append {digits rest : List Char} (nonempty : digits ≠ [])
    (all : ∀ c ∈ digits, c.isDigit = true) (stop : ∀ c ∈ rest.head?, c.isDigit = false) :
    readDigits (digits ++ rest) = .ok (digits, rest) := by
  have none : rest.takeWhile Char.isDigit = [] ∧ rest.dropWhile Char.isDigit = rest := by
    cases rest with
    | nil => exact ⟨rfl, rfl⟩
    | cons c rest => simp [stop c rfl]
  unfold readDigits
  rw [List.takeWhile_append_of_pos all, List.dropWhile_append_of_pos all, none.1, none.2,
    List.append_nil]
  cases digits with
  | nil => exact absurd rfl nonempty
  | cons c digits => rfl

theorem readWhole_toDigits {n : Nat} {rest : List Char}
    (stop : ∀ c ∈ rest.head?, c.isDigit = false) :
    readWhole (Nat.toDigits 10 n ++ rest) = .ok (n, rest) := by
  have read := readDigits_append Nat.toDigits_ne_nil (isDigit_of_mem_toDigits (n := n)) stop
  have value := digitsValue_toDigits n
  rw [readWhole, bind_of_read read]
  have plain := @toDigits_ne_zero_cons n
  generalize Nat.toDigits 10 n = digits at plain value
  split
  · exact absurd rfl plain
  · rw [value]
    rfl

theorem readNumberText_toDigits {n : Nat} {rest : List Char} (ends : Ends rest) :
    readNumberText (Nat.toDigits 10 n ++ rest) = .ok ({ whole := n }, rest) := by
  have digits := isDigit_of_mem_toDigits (n := n)
  have whole := readWhole_toDigits (n := n) ends.not_isDigit
  have fraction : readFraction rest = .ok ([], rest) := by
    unfold readFraction
    split
    · exact absurd (ends '.' rfl) (by decide)
    · rfl
  have exponent : readExponent rest = .ok (none, rest) := by
    cases rest with
    | nil => rfl
    | cons c rest =>
      have other : ¬ (c = 'e' ∨ c = 'E') := by
        have := ends c rfl
        rintro (rfl | rfl) <;> exact absurd this (by decide)
      simp [readExponent, other]
  -- A digit stands first, so there is no sign.
  obtain ⟨c, more, written⟩ := List.exists_cons_of_ne_nil (Nat.toDigits_ne_nil (b := 10) (n := n))
  have other : c ≠ '-' := by
    rintro rfl
    exact absurd (digits '-' (by rw [written]; exact List.mem_cons_self)) (by decide)
  have unsigned : readNumberText (Nat.toDigits 10 n ++ rest) =
      (do
        let whole ← readWhole
        let fraction ← readFraction
        let exponent ← readExponent
        pure { whole, fraction, exponent } : Reader Number) (Nat.toDigits 10 n ++ rest) := by
    refine bind_of_read ?_
    rw [written]
    simp [modifyGet, MonadStateOf.modifyGet, StateT.modifyGet, other, pure, Except.pure]
  rw [unsigned, bind_of_read whole, bind_of_read fraction, bind_of_read exponent]
  rfl

theorem readNumber_toDigits {n : Nat} (small : n < UInt64.size) {rest : List Char}
    (ends : Ends rest) :
    readNumber (Nat.toDigits 10 n ++ rest) = .ok ({ whole := n }, rest) := by
  have finite : (Number.toDouble? { whole := n }).isNone = false := by
    rw [Option.isNone_eq_false_iff]
    exact isSome_toDouble small
  rw [readNumber, bind_of_read (readNumberText_toDigits ends), finite]
  rfl

/-! Strings. -/

theorem hexDigitValue_hexDigit : ∀ n < 16, hexDigitValue? (hexDigit n) = some n := by
  decide

theorem readHex4_hexDigit {high low : Nat} (high' : high < 16) (low' : low < 16)
    (rest : List Char) :
    readHex4 ('0' :: '0' :: hexDigit high :: hexDigit low :: rest) = .ok (high * 16 + low, rest) := by
  have zero : hexDigitValue? '0' = some 0 := by decide
  simp [readHex4, zero, hexDigitValue_hexDigit high high', hexDigitValue_hexDigit low low']

theorem readUnicodeEscape_control {c : Char} (control : c.toNat < 0x20) (rest : List Char) :
    readUnicodeEscape ('0' :: '0' :: hexDigit (c.toNat / 16) :: hexDigit (c.toNat % 16) :: rest) =
      .ok (c, rest) := by
  have code : c.toNat / 16 * 16 + c.toNat % 16 = c.toNat := by omega
  have high : isHighSurrogate c.toNat = false := by
    simp [isHighSurrogate]
    omega
  have low : isLowSurrogate c.toNat = false := by
    simp [isLowSurrogate]
    omega
  rw [readUnicodeEscape, bind_of_read (readHex4_hexDigit (by omega) (by omega) rest), code, high, low,
    Char.ofNat_toNat]
  rfl

theorem readStringChar_escape (c : Char) (rest : List Char) :
    readStringChar (escape c ++ rest) = .ok (c, rest) := by
  unfold escape
  split
  case h_8 =>
    next backslash _ _ _ _ _ =>
    split
    · next control => exact readUnicodeEscape_control control rest
    · next printable =>
      rw [List.singleton_append, readStringChar]
      · exact if_neg (by simpa [printable] using backslash)
      · exact fun _ same _ => backslash same
      · exact fun _ _ same _ => backslash same
  all_goals rfl

theorem escape_eq_cons (c : Char) : ∃ d more, escape c = d :: more ∧ d ≠ '"' := by
  unfold escape
  split
  case h_8 =>
    next quote _ _ _ _ _ _ =>
    split
    · exact ⟨_, _, rfl, by decide⟩
    · exact ⟨c, [], rfl, quote⟩
  all_goals exact ⟨_, _, rfl, by decide⟩

theorem readCharacters_escape (chars rest : List Char) {count : Nat}
    (enough : chars.length ≤ count) :
    readCharacters readStringChar count (chars.flatMap escape ++ '"' :: rest) =
      .ok (chars, rest) := by
  induction chars generalizing count with
  | nil => cases count <;> rfl
  | cons c chars ih =>
    obtain ⟨count, rfl⟩ : ∃ fewer, count = fewer + 1 := ⟨count - 1, by simp at enough; omega⟩
    have read := readStringChar_escape c (chars.flatMap escape ++ '"' :: rest)
    obtain ⟨d, more, written, other⟩ := escape_eq_cons c
    have tail : readCharacters readStringChar count (chars.flatMap escape ++ '"' :: rest) =
        .ok (chars, rest) := ih (by simpa using enough)
    rw [List.flatMap_cons, List.append_assoc]
    rw [written, List.cons_append] at read ⊢
    rw [readCharacters]
    · rw [read]
      simp [tail, bind, Except.bind, pure, Except.pure]
    · simpa using other

theorem length_le_escape (chars : List Char) : chars.length ≤ (chars.flatMap escape).length := by
  induction chars with
  | nil => exact Nat.le_refl 0
  | cons c chars ih =>
    obtain ⟨d, more, written, _⟩ := escape_eq_cons c
    rw [List.flatMap_cons, written, List.length_append, List.length_cons, List.length_cons]
    omega

theorem readStringBody_escape (text : String) (rest : List Char) :
    readStringBody (text.toList.flatMap escape ++ '"' :: rest) = .ok (text, rest) := by
  have enough : text.toList.length ≤ (text.toList.flatMap escape ++ '"' :: rest).length := by
    have := length_le_escape text.toList
    rw [List.length_append]
    omega
  unfold readStringBody readUntilQuote
  rw [readCharacters_escape _ _ enough]
  simp [bind, Except.bind, pure, Except.pure]

end GraphQuery.Json
