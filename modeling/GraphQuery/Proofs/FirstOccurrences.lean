import Mathlib.Data.List.Basic
import Mathlib.Data.List.Induction

/-! Lists without their repetitions. Of equal elements the first one is left, so that the order is that of the
first occurrences. -/

set_option autoImplicit false

namespace GraphQuery

variable {α : Type} [BEq α] [LawfulBEq α]

theorem eraseDups_concat (xs : List α) (x : α) :
    (xs ++ [x]).eraseDups = if x ∈ xs then xs.eraseDups else xs.eraseDups ++ [x] := by
  rw [List.eraseDups_append, List.cons_removeAll, List.nil_removeAll]
  by_cases seen : x ∈ xs <;> simp [seen, List.eraseDups_cons]

/-- The elements are left in the order of their first occurrences. -/
theorem pairwise_idxOf_eraseDups (xs : List α) :
    xs.eraseDups.Pairwise fun first second => xs.idxOf first < xs.idxOf second := by
  -- The last element is taken off. If it is new, it occurs behind all others.
  induction xs using List.reverseRecOn with
  | nil => exact .nil
  | append_singleton xs x ih =>
    have before : xs.eraseDups.Pairwise fun first second =>
        (xs ++ [x]).idxOf first < (xs ++ [x]).idxOf second := by
      refine ih.imp_of_mem fun member member' less => ?_
      rw [List.idxOf_append_of_mem (List.mem_eraseDups.mp member),
        List.idxOf_append_of_mem (List.mem_eraseDups.mp member')]
      exact less
    rw [eraseDups_concat]
    split
    · exact before
    · next fresh =>
      refine List.pairwise_append.mpr ⟨before, List.pairwise_singleton _ x, ?_⟩
      intro other member last same
      obtain rfl := List.mem_singleton.mp same
      have inside := List.mem_eraseDups.mp member
      rw [List.idxOf_append_of_mem inside, List.idxOf_append_of_notMem fresh]
      exact Nat.lt_of_lt_of_le (List.idxOf_lt_length_of_mem inside) (Nat.le_add_right _ _)

theorem nodup_eraseDups (xs : List α) : xs.eraseDups.Nodup :=
  (pairwise_idxOf_eraseDups xs).imp fun less same => by simp [same] at less

/-- Repetitions of one element before others that differ from it are left as one. -/
theorem eraseDups_append_of_forall_eq {xs ys : List α} {x : α} (nonempty : xs ≠ []) (same : ∀ y ∈ xs, y = x)
    (fresh : x ∉ ys) : (xs ++ ys).eraseDups = x :: ys.eraseDups := by
  obtain ⟨first, more, rfl⟩ := List.exists_cons_of_ne_nil nonempty
  obtain ⟨rfl, same⟩ := List.forall_mem_cons.mp same
  have none : more.filter (fun y => !y == first) = [] :=
    List.filter_eq_nil_iff.mpr fun y member => by simp [same y member]
  have all : ys.filter (fun y => !y == first) = ys :=
    List.filter_eq_self.mpr fun y member => by simpa using ne_of_mem_of_not_mem member fresh
  rw [List.cons_append, List.eraseDups_cons, List.filter_append, none, all, List.nil_append]

end GraphQuery
