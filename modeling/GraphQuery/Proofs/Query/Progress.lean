import GraphQuery.Proofs.Query.Language
import Mathlib.Data.List.Basic

/-! What survives the reading of a sentence, piece by piece.

A property of texts that every smallest piece passes on from a text to what is left of it is passed on
by whole productions. One such property is a bound on the length: no piece of a sentence adds to the
text, and each gap takes some of it away. -/

set_option autoImplicit false

namespace GraphQuery.Query.Language

open Text Grammar

def Keeps (holds : List Char → Prop) (span : Span) : Prop :=
  ∀ ⦃text rest : List Char⦄, span text rest → holds text → holds rest

section Kept
variable {α : Type} {holds : List Char → Prop} {span other : Span} {item : α → Span}
  {allowed good : α → Prop} {values : List α} {text rest : List Char}

theorem Keeps.either (first : Keeps holds span) (second : Keeps holds other) :
    Keeps holds (Either span other) := by
  rintro text rest (said | said)
  · exact first said
  · exact second said

theorem Keeps.optional (keeps : Keeps holds span) : Keeps holds (Optional span) :=
  .either (fun _ _ same => (same ▸ ·)) keeps

theorem Keeps.sequence {spans : List Span} (each : ∀ span ∈ spans, Keeps holds span) :
    Keeps holds (Sequence spans) := by
  induction spans with
  | nil => exact fun _ _ same => (same ▸ ·)
  | cons first others ih =>
    have tail := ih fun span member => each span (List.mem_cons_of_mem first member)
    cases others with
    | nil => exact each first List.mem_cons_self
    | cons second others =>
      rintro text rest ⟨middle, said, more⟩ begun
      exact tail more (each first List.mem_cons_self said begun)

theorem Repeated.invariant (said : Repeated item values text rest)
    (step : ∀ {value : α} {text rest : List Char}, allowed value → item value text rest →
      holds text → good value ∧ holds rest)
    (all : ∀ value ∈ values, allowed value) (begun : holds text) :
    (∀ value ∈ values, good value) ∧ holds rest := by
  induction said with
  | nil => exact ⟨by simp, begun⟩
  | cons first _ ih =>
    obtain ⟨here, middle⟩ := step (all _ List.mem_cons_self) first begun
    obtain ⟨later, last⟩ := ih (fun value member => all value (List.mem_cons_of_mem _ member)) middle
    exact ⟨List.forall_mem_cons.mpr ⟨here, later⟩, last⟩

theorem Series.invariant (said : Series span item values text rest) (separator : Keeps holds span)
    (step : ∀ {value : α} {text rest : List Char}, allowed value → item value text rest →
      holds text → good value ∧ holds rest)
    (all : ∀ value ∈ values, allowed value) (begun : holds text) :
    (∀ value ∈ values, good value) ∧ holds rest := by
  cases said with
  | @mk _ more _ middle _ first others =>
    have separated : ∀ {value : α} {text rest : List Char}, allowed value →
        Sequence [span, item value] text rest → holds text → good value ∧ holds rest := by
      rintro value text rest fits ⟨_, gap, said⟩ begun
      exact step fits said (separator gap begun)
    obtain ⟨here, before⟩ := step (all _ List.mem_cons_self) first begun
    obtain ⟨later, last⟩ := others.invariant separated
      (fun value member => all value (List.mem_cons_of_mem _ member)) before
    exact ⟨List.forall_mem_cons.mpr ⟨here, later⟩, last⟩

theorem Keeps.series (separator : Keeps holds span) (each : ∀ value, Keeps holds (item value))
    (values : List α) : Keeps holds (Series span item values) := by
  intro text rest said begun
  have step : ∀ {value : α} {text rest : List Char}, True → item value text rest → holds text →
      True ∧ holds rest := fun _ said begun => ⟨trivial, each _ said begun⟩
  exact (said.invariant separator step (fun _ _ => trivial) begun).2

end Kept

/-! Lengths. -/

def Shrinks (span : Span) : Prop :=
  ∀ ⦃text rest : List Char⦄, span text rest → rest.length ≤ text.length

section Combined
variable {α : Type} {item : α → Span} {span other : Span}

/-- Whatever bounds the text bounds what is left of it. -/
theorem shrinks_iff_keeps : Shrinks span ↔ ∀ bound, Keeps (·.length ≤ bound) span := by
  constructor
  · intro shrinks bound text rest said fits
    exact Nat.le_trans (shrinks said) fits
  · intro keeps text rest said
    exact keeps text.length said (Nat.le_refl _)

@[simp] theorem Shrinks.optional (shrinks : Shrinks span) : Shrinks (Optional span) :=
  shrinks_iff_keeps.mpr fun bound => .optional (shrinks_iff_keeps.mp shrinks bound)

@[simp] theorem Shrinks.sequence {spans : List Span} (each : ∀ span ∈ spans, Shrinks span) :
    Shrinks (Sequence spans) :=
  shrinks_iff_keeps.mpr fun bound =>
    .sequence fun span member => shrinks_iff_keeps.mp (each span member) bound

@[simp] theorem Shrinks.series (separator : Shrinks span) (each : ∀ value, Shrinks (item value))
    (values : List α) : Shrinks (Series span item values) :=
  shrinks_iff_keeps.mpr fun bound =>
    .series (shrinks_iff_keeps.mp separator bound)
      (fun value => shrinks_iff_keeps.mp (each value) bound) values

end Combined

theorem length_lt_of_gap {text rest : List Char} (gap : Gap text rest) :
    rest.length < text.length := by
  obtain ⟨blanks, nonempty, _, rfl⟩ := gap
  have := List.length_pos_iff.mpr nonempty
  rw [List.length_append]
  omega

@[simp] theorem shrinks_gap : Shrinks Gap :=
  fun _ _ gap => Nat.le_of_lt (length_lt_of_gap gap)

@[simp] theorem shrinks_word (word : String) : Shrinks (Word word) := by
  rintro _ rest ⟨found, rfl, _⟩
  simp

@[simp] theorem shrinks_oneOf (words : List String) : Shrinks (OneOf words) := by
  rintro text rest ⟨word, _, said⟩
  exact shrinks_word word said

@[simp] theorem shrinks_name (forms : List (List Char)) : Shrinks (Name forms) := by
  rintro _ rest ⟨form, _, rfl, _⟩
  simp

@[simp] theorem shrinks_key (entry : TypeEntry) (key : String) : Shrinks (Key entry key) := by
  rintro text rest ⟨property, _, _, said⟩
  exact shrinks_name _ said

theorem shrinks_phrase (words : List String) : Shrinks (Phrase words) := by
  induction words with
  | nil => exact fun _ _ same => same ▸ Nat.le_refl _
  | cons first others ih =>
    cases others with
    | nil => exact shrinks_word first
    | cons second others => exact .sequence (by simp [ih])

@[simp] theorem shrinks_lookupPhrase (lookup : Lookup) : Shrinks (LookupPhrase lookup) := by
  rintro text rest ⟨words, _, said⟩
  exact shrinks_phrase words said

@[simp] theorem shrinks_valueText (bare : Span) (value : Value) : Shrinks (ValueText bare value) := by
  rintro text rest said
  cases said
  · simp
    omega
  · simp

@[simp] theorem shrinks_opening : Shrinks Opening :=
  .sequence (by simp [Article])

@[simp] theorem shrinks_introduction (entry : TypeEntry) (cue : Cue) (key : String) (lookup : Lookup) :
    Shrinks (Introduction entry cue key lookup) := by
  rintro text rest (said | said | said | ⟨_, said⟩)
  all_goals exact Shrinks.sequence (by simp) said

@[simp] theorem shrinks_joint : Shrinks Joint :=
  .sequence (by simp [Connective])

theorem length_lt_of_joint {text rest : List Char} (joint : Joint text rest) :
    rest.length < text.length := by
  obtain ⟨middle, gap, more⟩ := joint
  have := length_lt_of_gap gap
  have := Shrinks.sequence (by simp [Connective]) more
  omega

@[simp] theorem shrinks_clauseText (bare : BareRule) (entry : TypeEntry) (clause : Clause) :
    Shrinks (ClauseText bare entry clause) := by
  rintro text rest ⟨said⟩
  exact Shrinks.sequence (by simp) said

@[simp] theorem shrinks_clausesText (bare : BareRule) (entry : TypeEntry) (clauses : List Clause) :
    Shrinks (ClausesText bare entry clauses) := by
  rintro text rest (_ | said)
  · exact Nat.le_refl _
  · exact Shrinks.sequence (by simp) said

theorem length_lt_of_listSeparator {text rest : List Char} (said : ListSeparator text rest) :
    rest.length < text.length := by
  rcases said with ⟨middle, before, _, rfl, behind⟩ | ⟨middle, gap, more⟩
  · have := shrinks_gap.optional before
    have := shrinks_gap.optional behind
    rw [List.length_cons] at *
    omega
  · have := length_lt_of_gap gap
    have := Shrinks.sequence (by simp) more
    omega

@[simp] theorem shrinks_listSeparator : Shrinks ListSeparator :=
  fun _ _ said => Nat.le_of_lt (length_lt_of_listSeparator said)

@[simp] theorem shrinks_projectionText (entry : TypeEntry) (keys : Option (List String)) :
    Shrinks (ProjectionText entry keys) := by
  cases keys with
  | none => exact fun _ _ same => same ▸ Nat.le_refl _
  | some keys => exact .sequence (by simp [KeyList])

@[simp] theorem shrinks_facetText (bare : BareRule) (entry : TypeEntry) (facet : Facet) :
    Shrinks (FacetText bare entry facet) := by
  rintro text rest ⟨said⟩
  exact Shrinks.sequence (by simp) said

@[simp] theorem shrinks_groupText (bare : BareRule) (grammar : Grammar) (facets : List Facet) :
    Shrinks (GroupText bare grammar facets) := by
  rintro text rest ⟨entry, _, said⟩
  exact Shrinks.series (by simp) (by simp) facets said

theorem length_lt_of_hopText {bare : BareRule} {grammar : Grammar} {hop : Hop} {text rest : List Char}
    (said : HopText bare grammar hop text rest) : rest.length < text.length := by
  obtain ⟨middle, ⟨entry, _, _, first, gap, more⟩, others⟩ := said
  have := length_lt_of_gap gap
  have := Shrinks.sequence (by simp [Connective, Article]) more
  have := Shrinks.sequence (by simp) others
  omega

end GraphQuery.Query.Language
