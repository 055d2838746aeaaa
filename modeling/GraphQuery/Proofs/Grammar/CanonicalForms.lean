import GraphQuery.Proofs.FirstOccurrences
import GraphQuery.Proofs.Grammar.Assembly

/-! The order of the forms of a name.

A name has eight candidates for its forms, in a fixed order, and some of them may be the same. The forms are the
candidates without repetition, the longest first. A case mapping may make a candidate longer, so that its length
says nothing about its place among the candidates, but of equally long forms the earlier candidate stays ahead.
This determines the list. -/

set_option autoImplicit false

namespace GraphQuery.Grammar

open Text

variable {candidates forms others : List (List Char)} {form later : List Char}

/-- A form is ahead of shorter ones, and of equally long ones that occur later among the candidates. -/
def Ahead (candidates : List (List Char)) (form later : List Char) : Prop :=
  later.length < form.length ∨
    later.length = form.length ∧ candidates.idxOf form < candidates.idxOf later

namespace Ahead

theorem length_le (ahead : Ahead candidates form later) : later.length ≤ form.length := by
  rcases ahead with longer | ⟨same, _⟩
  · exact Nat.le_of_lt longer
  · exact Nat.le_of_eq same

theorem asymm (ahead : Ahead candidates form later) : ¬Ahead candidates later form := by
  unfold Ahead at ahead ⊢
  omega

theorem irrefl (form : List Char) : ¬Ahead candidates form form := fun ahead =>
  ahead.asymm ahead

/-- A form is not the beginning of one that it is ahead of. -/
theorem not_prefix (ahead : Ahead candidates form later) : ¬form <+: later := by
  intro begins
  obtain rfl := begins.eq_of_length_le ahead.length_le
  exact irrefl form ahead

end Ahead

/-! Sorting. -/

/-- One insertion. -/
theorem pairwise_ahead_insertForm (sorted : forms.Pairwise (Ahead candidates))
    (earlier : ∀ other ∈ forms, candidates.idxOf form < candidates.idxOf other) :
    (insertForm form forms).Pairwise (Ahead candidates) := by
  -- The form occurs before those that are sorted already, so it need not pass equally long ones.
  induction forms with
  | nil => exact List.pairwise_singleton _ _
  | cons other rest ih =>
    obtain ⟨first, sorted'⟩ := List.pairwise_cons.mp sorted
    unfold insertForm
    split
    · next fits =>
      -- Nothing behind is longer, and what is equally long is a later candidate.
      refine List.pairwise_cons.mpr ⟨fun next member => ?_, sorted⟩
      have bound : next.length ≤ form.length := by
        rcases List.mem_cons.mp member with rfl | member
        · exact fits
        · exact Nat.le_trans (first next member).length_le fits
      rcases Nat.lt_or_eq_of_le bound with shorter | same
      · exact .inl shorter
      · exact .inr ⟨same, earlier next member⟩
    · next longer =>
      refine List.pairwise_cons.mpr ⟨fun next member => ?_, ih sorted' ?_⟩
      · rcases mem_insertForm.mp member with rfl | member
        · exact .inl (Nat.lt_of_not_le longer)
        · exact first next member
      · exact fun next member => earlier next (List.mem_cons_of_mem other member)

theorem pairwise_ahead_longestFirst
    (given : forms.Pairwise fun form later => candidates.idxOf form < candidates.idxOf later) :
    (longestFirst forms).Pairwise (Ahead candidates) := by
  -- The earliest form is taken off, which is inserted after all others.
  induction forms with
  | nil => exact .nil
  | cons first rest ih =>
    obtain ⟨earliest, given⟩ := List.pairwise_cons.mp given
    refine pairwise_ahead_insertForm (ih given) fun other member => ?_
    exact earliest other (mem_longestFirst.mp member)

theorem pairwise_ahead_forms (singular plural : List Char) :
    (Grammar.forms singular plural).Pairwise (Ahead (spellings singular ++ spellings plural)) :=
  pairwise_ahead_longestFirst (pairwise_idxOf_eraseDups _)

/-! Lists that are determined by their candidates. -/

/-- The candidates, each once, every one ahead of those behind it. -/
structure Canonical (candidates forms : List (List Char)) : Prop where
  distinct : forms.Nodup
  mem_iff : ∀ form, form ∈ forms ↔ form ∈ candidates
  ordered : forms.Pairwise (Ahead candidates)

namespace Canonical

theorem of_pairwise (mem_iff : ∀ form, form ∈ forms ↔ form ∈ candidates)
    (ordered : forms.Pairwise (Ahead candidates)) : Canonical candidates forms where
  distinct := ordered.imp <| by
    rintro form _ ahead rfl
    exact Ahead.irrefl form ahead
  mem_iff := mem_iff
  ordered := ordered

theorem unique (canonical : Canonical candidates forms) (canonical' : Canonical candidates others) :
    forms = others := by
  have same : forms.Perm others :=
    (List.perm_ext_iff_of_nodup canonical.distinct canonical'.distinct).mpr fun form =>
      (canonical.mem_iff form).trans (canonical'.mem_iff form).symm
  refine same.eq_of_pairwise (fun form later _ _ ahead ahead' => ?_) canonical.ordered canonical'.ordered
  exact absurd ahead' ahead.asymm

end Canonical

/-- The forms of a name are the one canonical list of its candidates: as declared, in lowercase, in uppercase and
capitalized, first of the singular and then of the plural. None of them is the beginning of one behind it. -/
theorem canonical_forms (singular plural : List Char) :
    Grammar.forms singular plural ≠ [] ∧
      (∀ list, Canonical [singular, lowercase singular, uppercase singular, capitalize singular, plural,
          lowercase plural, uppercase plural, capitalize plural] list ↔ list = Grammar.forms singular plural) ∧
      (Grammar.forms singular plural).Pairwise fun form later => ¬form <+: later := by
  have ordered := pairwise_ahead_forms singular plural
  have canonical : Canonical (spellings singular ++ spellings plural) (Grammar.forms singular plural) :=
    .of_pairwise (fun form => mem_forms.trans List.mem_append.symm) ordered
  refine ⟨forms_ne_nil singular plural, fun list => ⟨fun other => ?_, ?_⟩, ?_⟩
  · exact other.unique canonical
  · rintro rfl
    exact canonical
  · exact ordered.imp fun ahead => ahead.not_prefix

/-- Uppercase is longer than what is declared, so that a spelling of the singular comes before the plural, and of
two equally long forms the one of the singular. -/
example : (Grammar.forms "ß".toList "ßs".toList).map String.ofList = ["SSS", "SSs", "SS", "ßs", "ß"] := by
  decide +kernel

end GraphQuery.Grammar
