import GraphQuery.Text.Digits
import Mathlib.Data.List.Basic

/-! Numbers in decimal digits, as they are written in labels and in documents. -/

set_option autoImplicit false

namespace GraphQuery.Text

theorem isDigit_of_mem_toDigits {n : Nat} : ∀ c ∈ Nat.toDigits 10 n, c.isDigit = true :=
  fun _ member => Nat.isDigit_of_mem_toDigits (by decide) (by decide) member

theorem digitsValue_toDigits (n : Nat) : digitsValue (Nat.toDigits 10 n) = n := by
  have steps : (fun value digit => value * 10 + digitValue digit) =
      fun value (digit : Char) => 10 * value + (digit.toNat - '0'.toNat) := by
    funext value digit
    rw [Nat.mul_comm, digitValue]
  rw [digitsValue, steps]
  exact Nat.ofDigitChars_ten_toDigits

theorem readNat_toDigits (n : Nat) : readNat? (Nat.toDigits 10 n) = some n := by
  have digits : (Nat.toDigits 10 n).all Char.isDigit = true :=
    List.all_eq_true.mpr isDigit_of_mem_toDigits
  simp [readNat?, digits, digitsValue_toDigits, Nat.toDigits_ne_nil]

theorem toDigits_injective {first second : Nat}
    (same : Nat.toDigits 10 first = Nat.toDigits 10 second) : first = second := by
  have values := congrArg digitsValue same
  simpa only [digitsValue_toDigits] using values

theorem head_toDigits_ne_zero {n : Nat} (positive : n ≠ 0) :
    (Nat.toDigits 10 n).head? ≠ some '0' := by
  have digit : ∀ n < 10, n ≠ 0 → Nat.digitChar n ≠ '0' := by decide
  induction n using Nat.strongRecOn with
  | ind n ih =>
    rw [Nat.toDigits_eq_if (by decide)]
    split
    · next small => simpa using digit n small positive
    · rw [List.head?_append_of_ne_nil _ Nat.toDigits_ne_nil]
      exact ih (n / 10) (by omega) (by omega)

/-- No number is written with a leading zero. -/
theorem toDigits_ne_zero_cons (n : Nat) {c : Char} {rest : List Char} :
    Nat.toDigits 10 n ≠ '0' :: c :: rest := by
  intro same
  by_cases zero : n = 0
  · subst zero
    simp at same
  · exact head_toDigits_ne_zero zero (by rw [same]; rfl)

end GraphQuery.Text
