import GraphQuery.Text.Quoted
import Mathlib.Data.List.Basic
import Mathlib.Logic.Function.Basic

/-! Quoting loses nothing: texts that are quoted alike are the same.

No escape is the start of another one, so escapes that follow one another can be told apart. -/

set_option autoImplicit false

namespace GraphQuery.Text

theorem append_stop_inj {stop : Char} {text other rest more : List Char} (absent : stop ∉ text)
    (absent' : stop ∉ other) (same : text ++ stop :: rest = other ++ stop :: more) :
    text = other ∧ rest = more := by
  induction text generalizing other with
  | nil =>
    cases other with
    | nil => exact ⟨rfl, (List.cons.inj same).2⟩
    | cons d other => exact absurd (List.mem_cons.mpr (.inl (List.cons.inj same).1)) absent'
  | cons c text ih =>
    cases other with
    | nil => exact absurd (List.mem_cons.mpr (.inl (List.cons.inj same).1.symm)) absent
    | cons d other =>
      obtain ⟨rfl, tail⟩ := List.cons.inj same
      obtain ⟨rfl, later⟩ := ih (fun member => absent (List.mem_cons_of_mem c member))
        (fun member => absent' (List.mem_cons_of_mem c member)) tail
      exact ⟨rfl, later⟩

theorem digitChar_injective : ∀ first < 16, ∀ second < 16,
    Nat.digitChar first = Nat.digitChar second → first = second := by
  decide

theorem lowerHexDigits_eq (n : Nat) :
    lowerHexDigits n =
      if n < 16 then [Nat.digitChar n] else lowerHexDigits (n / 16) ++ [Nat.digitChar (n % 16)] :=
  Nat.toDigits_eq_if (by decide)

theorem lowerHexDigits_injective {first second : Nat}
    (same : lowerHexDigits first = lowerHexDigits second) : first = second := by
  -- The last digit is taken off.
  induction first using Nat.strongRecOn generalizing second with
  | ind first ih =>
    have nonempty : ∀ n, lowerHexDigits n ≠ [] := fun _ => Nat.toDigits_ne_nil
    rw [lowerHexDigits_eq first, lowerHexDigits_eq second] at same
    split at same <;> split at same
    · next small small' => exact digitChar_injective first small second small' (by simpa using same)
    · rw [List.singleton_eq_append_iff] at same
      simp [nonempty] at same
    · rw [List.append_eq_singleton_iff] at same
      simp [nonempty] at same
    · next large _ =>
      obtain ⟨front, last⟩ := List.append_inj' same rfl
      have quotients := ih (first / 16) (by omega) front
      have digits := digitChar_injective (first % 16) (by omega) (second % 16) (by omega)
        (by simpa using last)
      omega

theorem brace_not_mem_lowerHexDigits (n : Nat) : '}' ∉ lowerHexDigits n := by
  have digit : ∀ n < 16, Nat.digitChar n ≠ '}' := by decide
  induction n using Nat.strongRecOn with
  | ind n ih =>
    rw [lowerHexDigits_eq]
    split
    · next small => simp [(digit n small).symm]
    · simp only [List.mem_append, List.mem_singleton, not_or]
      exact ⟨ih (n / 16) (by omega), (digit (n % 16) (by omega)).symm⟩

/-- The characters with an escape of their own, and what follows the backslash in it. -/
def escapeMarks : List (Char × Char) :=
  [('\x00', '0'), ('\t', 't'), ('\n', 'n'), ('\r', 'r'), ('"', '"'), ('\\', '\\')]

/-- A character stands for itself, or a backslash begins its escape. -/
theorem escape_cases (c : Char) :
    c ≠ '\\' ∧ escape c = [c] ∨
      (∃ mark, (c, mark) ∈ escapeMarks ∧ escape c = ['\\', mark]) ∨
        escape c = '\\' :: 'u' :: '{' :: (lowerHexDigits c.toNat ++ ['}']) := by
  unfold escape
  split
  case h_7 =>
    next backslash =>
      split
      · exact .inr (.inr rfl)
      · exact .inl ⟨backslash, rfl⟩
  all_goals exact .inr (.inl ⟨_, List.mem_of_elem_eq_true rfl, rfl⟩)

theorem escape_append_inj {c d : Char} {rest more : List Char}
    (same : escape c ++ rest = escape d ++ more) : c = d ∧ rest = more := by
  -- The character behind a backslash tells the escape, and none of these is the `u` of a code.
  have marks : ∀ first ∈ escapeMarks, first.2 ≠ 'u' ∧
      ∀ second ∈ escapeMarks, first.2 = second.2 → first = second := by decide
  rcases escape_cases c with ⟨plain, code⟩ | ⟨mark, member, code⟩ | code <;>
    rcases escape_cases d with ⟨plain', code'⟩ | ⟨mark', member', code'⟩ | code' <;>
    simp only [code, code', List.cons_append, List.nil_append, List.append_assoc, List.cons.injEq,
      true_and] at same
  · exact same
  · exact absurd same.1 plain
  · exact absurd same.1 plain
  · exact absurd same.1.symm plain'
  · exact ⟨(Prod.mk.inj ((marks _ member).2 _ member' same.1)).1, same.2⟩
  · exact absurd same.1 (marks _ member).1
  · exact absurd same.1.symm plain'
  · exact absurd same.1.symm (marks _ member').1
  · obtain ⟨digits, later⟩ := append_stop_inj (brace_not_mem_lowerHexDigits _)
      (brace_not_mem_lowerHexDigits _) same
    exact ⟨Char.toNat_inj.mp (lowerHexDigits_injective digits), later⟩

theorem escape_append_ne_quote_cons (c : Char) (rest more : List Char) :
    escape c ++ rest ≠ '"' :: more := by
  have marked : escape '"' ≠ ['"'] := by decide
  rcases escape_cases c with ⟨_, code⟩ | ⟨_, _, code⟩ | code <;>
    simp only [code, List.cons_append, ne_eq, List.cons.injEq, not_and]
  · rintro rfl
    exact absurd code marked
  · exact fun same => absurd same (by decide)
  · exact fun same => absurd same (by decide)

/-- Where a quoted text ends can be told from what it starts with. -/
theorem quoted_append_inj {text other rest more : List Char}
    (same : quoted text ++ rest = quoted other ++ more) : text = other ∧ rest = more := by
  replace same : text.flatMap escape ++ '"' :: rest = other.flatMap escape ++ '"' :: more := by
    simpa [quoted] using same
  induction text generalizing other with
  | nil =>
    cases other with
    | nil => simpa using same
    | cons d other =>
      rw [List.flatMap_cons, List.append_assoc] at same
      exact absurd same.symm (escape_append_ne_quote_cons d _ _)
  | cons c text ih =>
    cases other with
    | nil =>
      rw [List.flatMap_cons, List.append_assoc] at same
      exact absurd same (escape_append_ne_quote_cons c _ _)
    | cons d other =>
      rw [List.flatMap_cons, List.flatMap_cons, List.append_assoc, List.append_assoc] at same
      obtain ⟨rfl, later⟩ := escape_append_inj same
      obtain ⟨rfl, ended⟩ := ih later
      exact ⟨rfl, ended⟩

theorem quoted_injective : Function.Injective quoted := fun text other same =>
  (@quoted_append_inj text other [] [] (by rw [same])).1

theorem quote_injective : Function.Injective quote := by
  intro text other same
  have letters := congrArg String.toList same
  rw [quote, quote, String.toList_ofList, String.toList_ofList] at letters
  exact String.toList_inj.mp (quoted_injective letters)

end GraphQuery.Text
