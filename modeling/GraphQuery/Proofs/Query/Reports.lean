import GraphQuery.Proofs.Query.Accounts
import GraphQuery.Proofs.Query.Progress

/-! What a refused query expected.

Every production accounts for what it accepts, but for one case. A type without properties takes the words
that open a condition although no condition can follow, and then it has nothing to expect. -/

set_option autoImplicit false

namespace GraphQuery.Query

open Text Grammar Query.Language Matcher

/-! The productions account for what they accept. -/

section Productions
variable {grammar : Grammar} {entry : TypeEntry} {excused : List Char → Prop} {text : List Char}

theorem vocal_word (expected : String) : Vocal excused (word expected) text :=
  .piece (forward_word expected) (List.cons_ne_nil _ _)

theorem vocal_anyWord {words : List String} (nonempty : words ≠ []) :
    Vocal excused (anyWord words) text :=
  .firstOf (by simpa using nonempty) (List.forall_mem_map.mpr fun expected _ => vocal_word expected)

theorem vocal_space : Vocal excused space text :=
  .piece forward_space (List.cons_ne_nil _ _)

theorem vocal_endOfQuery : Vocal excused endOfQuery text :=
  .piece forward_endOfQuery (List.cons_ne_nil _ _)

theorem vocal_connective : Vocal excused connective text :=
  vocal_anyWord (by decide)

theorem vocal_article : Vocal excused article text :=
  vocal_anyWord (by decide)

theorem vocal_phrase (words : List String) : Vocal excused (phrase words) text := by
  induction words generalizing text with
  | nil => exact .pure ()
  | cons first others ih =>
    cases others with
    | nil => exact vocal_word first
    | cons second others => exact .bind (vocal_word first) fun _ => .bind vocal_space fun _ => ih

theorem vocal_lookup : Vocal excused lookup text :=
  .firstOf (by decide) (List.forall_mem_map.mpr fun found _ =>
    .bind (vocal_phrase found.1) fun _ => .pure found.2)

theorem vocal_typeName (entry : TypeEntry) : Vocal excused (typeName entry) text :=
  .piece (forward_typeName entry) (List.cons_ne_nil _ _)

theorem vocal_value : Vocal excused (value grammar entry) text :=
  .piece forward_value (List.cons_ne_nil _ _)

theorem accounted_property (entry : TypeEntry) : Accounted excused (property entry) text :=
  .piece (forward_property entry)

/-- A type without properties has nothing to expect for one. -/
theorem vocal_property (spoken : entry.properties ≠ []) : Vocal excused (property entry) text :=
  .piece (forward_property entry) (by simpa using spoken)

theorem properties_ne_nil_of_read {key : String} {rest : List Char}
    (read : (property entry).read? text = some (key, rest)) : entry.properties ≠ [] := by
  obtain ⟨found, member, _⟩ := key_of_read read
  exact List.ne_nil_of_mem member

theorem vocal_listSeparator : Vocal excused listSeparator text :=
  .orElse_right (.piece forward_comma)
    (.bind vocal_space fun _ => .bind (vocal_word "and") fun _ => vocal_space)

theorem accounted_propertyList (entry : TypeEntry) : Accounted excused (propertyList entry) text :=
  .bind (accounted_property entry) fun read =>
    have spoken := properties_ne_nil_of_read read
    .bind (.many (.bind forward_listSeparator fun _ => forward_property entry) fun _ =>
        .bind vocal_listSeparator.toAccounted fun _ => vocal_property spoken)
      fun _ => .pure _

theorem accounted_projection (entry : TypeEntry) : Accounted excused (projection entry) text :=
  .bind (accounted_propertyList entry) fun _ =>
    .bind vocal_space fun _ =>
      .bind (vocal_anyWord (by decide)) fun _ =>
        .bind vocal_space fun _ =>
          .bind (.optional (.bind (vocal_word "the").toAccounted fun _ => vocal_space)) fun _ => .pure _

theorem vocal_conditionOpening : Vocal excused conditionOpening text :=
  .bind (vocal_word conditionOpener) fun _ =>
    .bind (.optional (.bind vocal_space.toAccounted fun _ => vocal_article)) fun _ => vocal_space

theorem vocal_comparison : Vocal excused (comparison grammar entry) text := by
  refine .bind vocal_space fun _ => .bind (.optional vocal_lookup.toAccounted) @fun found _ _ => ?_
  have said : ∀ {text}, Vocal excused
      (do let value ← value grammar entry; Pure.pure (found.getD defaultLookup, value)) text :=
    .bind vocal_value fun _ => .pure _
  split
  · exact .bind vocal_space fun _ => said
  · exact said

theorem vocal_namedCondition (spoken : entry.properties ≠ []) :
    Vocal excused (namedCondition grammar entry) text :=
  .bind (vocal_property spoken) fun _ =>
    .bind (.orElse (.bind vocal_space fun _ => .bind (vocal_word "of") fun _ => vocal_comparison)
      vocal_comparison.toAccounted) fun _ => .pure _

theorem accounted_impliedCondition : Accounted excused (impliedCondition grammar entry) text := by
  unfold impliedCondition
  split
  · exact .reject
  · exact .bind vocal_lookup.toAccounted fun _ =>
      .bind vocal_space fun _ => .bind vocal_value fun _ => .pure _

theorem vocal_condition (spoken : entry.properties ≠ []) : Vocal excused (condition grammar entry) text :=
  .bind (.optional vocal_conditionOpening.toAccounted) fun _ =>
    .orElse (vocal_namedCondition spoken) accounted_impliedCondition

theorem vocal_joined {α : Type} {matcher : Matcher α}
    (each : ∀ {rest}, rest <:+ text → Vocal excused matcher rest) : Vocal excused (joined matcher) text :=
  .bind vocal_space fun before => .bind vocal_connective fun connected => .bind vocal_space fun behind =>
    each ((forward_space.rest behind).trans
      ((forward_connective.rest connected).trans (forward_space.rest before)))

theorem vocal_conditions (spoken : entry.properties ≠ []) :
    Vocal excused (conditions grammar entry) text :=
  .bind (.optional (.bind vocal_space.toAccounted fun _ =>
    .bind (vocal_condition spoken) fun _ =>
      .bind (.many (forward_joined forward_condition) fun _ =>
        (vocal_joined fun _ => vocal_condition spoken).toAccounted) fun _ => .pure _)) fun _ => .pure _

end Productions

/-! A type without properties takes the words that open a condition, but no condition. -/

section Silent
variable {grammar : Grammar} {entry : TypeEntry} {text place : List Char}

def ArticledOpening : Span :=
  Sequence [Gap, Word conditionOpener, Gap, Article, Gap]

/-- Without an article the opening has looked for one where it ends. -/
theorem articledOpening_or_reported {rest : List Char}
    (read : (space >>= fun _ => conditionOpening).read? text = some ((), rest)) :
    ArticledOpening text rest ∨ Reported ((space >>= fun _ => conditionOpening) text).log rest := by
  obtain ⟨_, first, spaced, opened⟩ := read?_bind_eq_some.mp read
  obtain ⟨_, second, opener, more⟩ := read?_bind_eq_some.mp opened
  obtain ⟨found, third, articled, behind⟩ := read?_bind_eq_some.mp more
  rcases read?_optional_eq_some.mp articled with ⟨_, rfl, said⟩ | ⟨rfl, rfl, refused⟩
  · obtain ⟨_, fourth, gap, article⟩ := read?_bind_eq_some.mp said
    exact .inl ⟨first, gap_of_read spaced, second, word_of_read opener, fourth, gap_of_read gap, third,
      exists_word_of_read article, gap_of_read behind⟩
  · -- Without an article one was looked for where the gap ends.
    rw [read?_bind_of_eq_some behind] at refused
    have expected : Reported (article rest).log rest :=
      (vocal_article : Vocal (fun _ => False) article rest).reports refused
    refine .inr (expected.mono fun event logged => ?_)
    refine mem_log_bind.mpr (.inr ⟨_, first, spaced, mem_log_bind.mpr (.inr ⟨_, second, opener, ?_⟩)⟩)
    refine mem_log_bind.mpr (.inl ?_)
    rw [log_optional]
    exact mem_log_bind.mpr (.inr ⟨_, rest, behind, logged⟩)

theorem within_of_accepted
    (member : .accepted place ∈ ((space >>= fun _ => conditionOpening) text).log) :
    place <:+ text ∧ place.length < text.length := by
  have ahead : Forward (space >>= fun _ => conditionOpening) :=
    .bind forward_space fun _ => forward_conditionOpening
  refine ⟨ahead.log member, ?_⟩
  rcases mem_log_bind.mp member with early | ⟨_, first, spaced, late⟩
  · obtain ⟨_, spaced⟩ := read_of_accepted early
    exact length_lt_of_gap (gap_of_read spaced)
  · exact Nat.lt_of_le_of_lt (forward_conditionOpening.log late).length_le
      (length_lt_of_gap (gap_of_read spaced))

theorem accepted_of_opening
    (member : .accepted place ∈ ((space >>= fun _ => conditionOpening) text).log) :
    Reported ((space >>= fun _ => conditionOpening) text).log place ∨
      ∃ rest, ArticledOpening text rest ∧ rest <:+ place ∧ place <:+ text ∧ place ≠ text := by
  have ahead : Forward (space >>= fun _ => conditionOpening) :=
    .bind forward_space fun _ => forward_conditionOpening
  have opening : Vocal (fun _ => False) (space >>= fun _ => conditionOpening) text :=
    .bind vocal_space fun _ => vocal_conditionOpening
  obtain ⟨within, beyond⟩ := within_of_accepted member
  rcases opening.covered member with reported | ⟨⟨⟩⟩ | ⟨_, rest, read, further⟩
  · exact .inl reported
  · rcases articledOpening_or_reported read with articled | reported
    · exact .inr ⟨rest, articled, List.suffix_of_suffix_length_le (ahead.rest read) within further,
        within, fun same => Nat.lt_irrefl _ (same ▸ beyond)⟩
    · exact .inl (reported.back further)

theorem property_refused_of_silent (silent : entry.properties = []) :
    (property entry).read? text = none :=
  read?_eq_none fun read => properties_ne_nil_of_read read silent

theorem log_property_of_silent (silent : entry.properties = []) : (property entry text).log = [] :=
  List.eq_nil_iff_forall_not_mem.mpr fun event member => by
    rcases mem_log_piece.mp member with ⟨_, _, read, _⟩ | ⟨_, _, listed, _⟩
    · exact properties_ne_nil_of_read ((read?_piece _ _ text).trans read) silent
    · simp [silent] at listed

theorem impliedCondition_of_silent (silent : entry.properties = []) :
    impliedCondition grammar entry = .reject := by
  unfold impliedCondition TypeEntry.onlyProperty?
  rw [silent]

theorem condition_refused_of_silent (silent : entry.properties = []) :
    (condition grammar entry).read? text = none := by
  refine read?_eq_none fun read => ?_
  obtain ⟨_, middle, _, core⟩ := read?_bind_eq_some.mp read
  rw [impliedCondition_of_silent silent, read?_orElse, namedCondition,
    read?_bind_of_eq_none (property_refused_of_silent silent)] at core
  cases core

theorem log_condition_of_silent (silent : entry.properties = []) {event : Event} :
    event ∈ (condition grammar entry text).log ↔ event ∈ (conditionOpening text).log := by
  -- Neither way to go on logs anything: there is no property to be named or implied.
  have core : ∀ middle, event ∉
      (Matcher.orElse (namedCondition grammar entry) (impliedCondition grammar entry) middle).log := by
    intro middle member
    rw [impliedCondition_of_silent silent] at member
    rcases mem_log_orElse.mp member with named | ⟨_, implied⟩
    · rcases mem_log_bind.mp named with first | ⟨_, _, read, _⟩
      · simp [log_property_of_silent silent] at first
      · rw [property_refused_of_silent silent] at read
        cases read
    · simp at implied
  rw [condition, mem_log_bind, log_optional]
  constructor
  · rintro (opening | ⟨_, middle, _, late⟩)
    · exact opening
    · exact absurd late (core middle)
  · exact .inl

theorem accepted_of_conditions (silent : entry.properties = [])
    (member : .accepted place ∈ (conditions grammar entry text).log) :
    Reported (conditions grammar entry text).log place ∨
      ∃ rest, ArticledOpening text rest ∧ rest <:+ place ∧ place <:+ text ∧ place ≠ text := by
  have same : ∀ {event}, event ∈ (conditions grammar entry text).log ↔
      event ∈ ((space >>= fun _ => conditionOpening) text).log := by
    intro event
    simp [conditions, mem_log_bind, log_optional, condition_refused_of_silent silent,
      log_condition_of_silent silent]
  exact (accepted_of_opening (same.mp member)).imp_left fun reported =>
    reported.mono fun _ logged => same.mpr logged

end Silent

/-! Facets and whole queries. -/

/-- A place in `with` and an article, with gaps around them, behind the name of a type without properties.
There is nothing that could be expected after it. -/
def Unanswered (grammar : Grammar) (whole place : List Char) : Prop :=
  ∃ entry ∈ grammar.nodeEntries, entry.properties = [] ∧
    ∃ before begun rest, before <:+ whole ∧ Name entry.forms before begun ∧
      ArticledOpening begun rest ∧ rest <:+ place ∧ place <:+ begun ∧ place ≠ begun

section Whole
variable {grammar : Grammar} {entry : TypeEntry} {whole text : List Char}

theorem read_conditions_ne_none : (conditions grammar entry).read? text ≠ none := by
  simp only [conditions, read?_bind, read?_optional]
  split <;> simp

theorem mem_nodeEntries_of_read {selected : TypeEntry × Facet} {rest : List Char}
    (read : (anyNodeFacet grammar).read? text = some (selected, rest)) :
    selected.1 ∈ grammar.nodeEntries := by
  rw [anyNodeFacet, read?_furthestOf] at read
  obtain ⟨matcher, member, found⟩ := List.mem_map.mp (mem_of_longest read)
  obtain ⟨entry, listed, rfl⟩ := List.mem_map.mp member
  obtain ⟨facet, middle, _, same⟩ := read?_bind_eq_some.mp found
  cases same
  exact listed

theorem vocal_nodeFacet (listed : entry ∈ grammar.nodeEntries) (within : text <:+ whole) :
    Vocal (Unanswered grammar whole) (nodeFacet grammar entry) text := by
  refine .bind (.optional (accounted_projection entry)) @fun _ before projected =>
    .bind (vocal_typeName entry) @fun _ begun named => .bind ?_ fun _ => .pure _
  by_cases silent : entry.properties = []
  · refine ⟨⟨fun read => (forward_conditions.rest read).length_le, ?_⟩, ?_⟩
    · intro place member
      refine (accepted_of_conditions silent member).imp_right fun ⟨rest, opening⟩ => .inl ?_
      exact ⟨entry, listed, silent, before, begun, rest,
        ((forward_projection entry).optional.rest projected).trans within, name_of_read named, opening⟩
    · exact fun refused => absurd refused read_conditions_ne_none
  · exact vocal_conditions silent

theorem vocal_group (nonempty : grammar.nodeEntries ≠ []) (within : text <:+ whole) :
    Vocal (Unanswered grammar whole) (group grammar) text := by
  have any : Vocal (Unanswered grammar whole) (anyNodeFacet grammar) text :=
    .furthestOf (by simpa using nonempty) (List.forall_mem_map.mpr fun entry listed =>
      .bind (vocal_nodeFacet listed within) fun _ => .pure _)
  refine .bind any @fun selected rest read =>
    .bind (.many (forward_joined forward_nodeFacet) ?_) fun _ => .pure _
  intro later ahead
  exact (vocal_joined fun further => vocal_nodeFacet (mem_nodeEntries_of_read read)
    (further.trans (ahead.trans ((forward_anyNodeFacet.rest read).trans within)))).toAccounted

theorem vocal_relationshipFacet (entry : TypeEntry) {excused : List Char → Prop} :
    Vocal excused (relationshipFacet entry) text :=
  .bind (.optional (.bind vocal_connective.toAccounted fun _ => vocal_space)) fun _ =>
    .bind (vocal_anyWord (by decide)) fun _ =>
      .bind vocal_space fun _ =>
        .bind (vocal_typeName entry) fun _ =>
          .bind (.optional (.bind vocal_space.toAccounted fun _ => vocal_article)) fun _ => .pure _

theorem vocal_hop (nodes : grammar.nodeEntries ≠ []) (relationships : grammar.relationshipEntries ≠ [])
    (within : text <:+ whole) : Vocal (Unanswered grammar whole) (hop grammar) text :=
  .bind vocal_space fun spaced =>
    .bind (.furthestOf (by simpa using relationships)
      (List.forall_mem_map.mpr fun entry _ => vocal_relationshipFacet entry)) fun related =>
        .bind vocal_space fun behind =>
          .bind (vocal_group nodes ((forward_space.rest behind).trans
            ((forward_anyRelationshipFacet.rest related).trans
              ((forward_space.rest spaced).trans within)))) fun _ => .pure _

theorem length_lt_of_read_joined {α : Type} {matcher : Matcher α} (forward : Forward matcher)
    {rest : List Char} {value : α} (read : (joined matcher).read? text = some (value, rest)) :
    rest.length < text.length := by
  obtain ⟨_, middle, spaced, more⟩ := read?_bind_eq_some.mp read
  have ahead : Forward (do connective; space; matcher) :=
    .bind forward_connective fun _ => .bind forward_space fun _ => forward
  exact Nat.lt_of_le_of_lt (ahead.rest more).length_le (length_lt_of_gap (gap_of_read spaced))

/-- A group that ends before a gap has looked behind that gap for one more facet. -/
theorem reported_of_group {sources : List Facet} {middle place : List Char}
    (read : (group grammar).read? text = some (sources, middle))
    (spaced : space.read? middle = some ((), place)) : Reported (group grammar text).log place := by
  obtain ⟨selected, first, chosen, more⟩ := read?_bind_eq_some.mp read
  obtain ⟨others, left, repeated, same⟩ := read?_bind_eq_some.mp more
  cases same
  obtain ⟨refused, kept⟩ := last_of_many (length_lt_of_read_joined forward_nodeFacet) repeated
  -- What was looked for is a connective and one more facet of the type.
  have facet : Vocal (Unanswered grammar place)
      (do connective; space; nodeFacet grammar selected.1) place :=
    .bind vocal_connective fun connected => .bind vocal_space fun behind =>
      vocal_nodeFacet (mem_nodeEntries_of_read chosen)
        ((forward_space.rest behind).trans (forward_connective.rest connected))
  rw [joined, read?_bind_of_eq_some spaced] at refused
  refine (facet.reports refused).mono fun event logged => ?_
  refine mem_log_bind.mpr (.inr ⟨selected, first, chosen, mem_log_bind.mpr (.inl (kept event ?_))⟩)
  exact mem_log_bind.mpr (.inr ⟨(), place, spaced, logged⟩)

theorem hop_refused (alone : grammar.relationshipEntries = []) : (hop grammar).read? text = none := by
  refine read?_eq_none fun read => ?_
  obtain ⟨_, _, _, more⟩ := read?_bind_eq_some.mp read
  obtain ⟨_, _, related, _⟩ := read?_bind_eq_some.mp more
  rw [anyRelationshipFacet, alone, read?_furthestOf] at related
  cases related

def GapAfterGroup (grammar : Grammar) (text place : List Char) : Prop :=
  ∃ sources middle, (group grammar).read? text = some (sources, middle) ∧
    space.read? middle = some ((), place)

theorem vocal_hops_of_alone (alone : grammar.relationshipEntries = []) {excused : List Char → Prop}
    (excuse : ∀ {place}, space.read? text = some ((), place) → excused place) :
    Vocal excused (hop grammar).many text where
  shrinks read := (forward_hop.many.rest read).length_le
  covered {place} member := by
    rcases mem_log_many.mp member with logged | ⟨_, _, read, _⟩
    · rcases mem_log_bind.mp logged with gap | ⟨_, after, spaced, more⟩
      · obtain ⟨_, spaced⟩ := read_of_accepted gap
        exact .inr (.inl (excuse spaced))
      · rcases mem_log_bind.mp more with related | ⟨_, _, related, _⟩
        · simp [anyRelationshipFacet, mem_log_furthestOf, alone] at related
        · rw [anyRelationshipFacet, alone, read?_furthestOf] at related
          cases related
    · rw [hop_refused alone] at read
      cases read
  reports refused := absurd refused (many_ne_none (hop grammar) text)

theorem vocal_tree (nonempty : grammar.nodeEntries ≠ []) :
    Vocal (fun place => Unanswered grammar text place ∨ GapAfterGroup grammar text place) (tree grammar)
      text := by
  refine .bind ((vocal_group nonempty List.suffix_rfl).mono fun _ => .inl) @fun sources middle grouped =>
    .bind ?_ fun _ => .bind vocal_endOfQuery fun _ => .pure _
  by_cases alone : grammar.relationshipEntries = []
  · exact vocal_hops_of_alone alone fun spaced => .inr ⟨sources, middle, grouped, spaced⟩
  · exact .many forward_hop fun ahead => ((vocal_hop nonempty alone
      (ahead.trans (forward_group.rest grouped))).mono fun _ => .inl).toAccounted

theorem log_tree_of_empty (empty : grammar.nodeEntries = []) : (tree grammar text).log = [] := by
  refine List.eq_nil_iff_forall_not_mem.mpr fun event member => ?_
  simp [tree, group, anyNodeFacet, empty, mem_log_bind, mem_log_furthestOf, read?_bind,
    read?_furthestOf, longest] at member

/-- Where a text is refused, something is expected at the end of every piece that was accepted or further
on, unless a type without properties is in the way. -/
theorem reported_of_accepted {place : List Char} (refused : (tree grammar).read? text = none)
    (member : .accepted place ∈ (tree grammar text).log) :
    Reported (tree grammar text).log place ∨ Unanswered grammar text place := by
  have nonempty : grammar.nodeEntries ≠ [] := fun empty => by
    rw [log_tree_of_empty empty] at member
    cases member
  rcases (vocal_tree nonempty).covered member with
    reported | (unanswered | ⟨sources, middle, grouped, spaced⟩) | ⟨_, _, read, _⟩
  · exact .inl reported
  · exact .inr unanswered
  · exact .inl ((reported_of_group grouped spaced).mono fun _ logged => mem_log_bind.mpr (.inl logged))
  · rw [refused] at read
    cases read

/-- A text is refused in silence only if there are no types to speak of. -/
theorem expected_iff_nonempty (refused : (tree grammar).read? text = none) :
    (∃ place what, .expected place what ∈ (tree grammar text).log) ↔ grammar.nodeEntries ≠ [] := by
  constructor
  · rintro ⟨place, what, member⟩ empty
    rw [log_tree_of_empty empty] at member
    cases member
  · intro nonempty
    obtain ⟨place, what, member, _⟩ := (vocal_tree nonempty).reports refused
    exact ⟨place, what, member⟩

end Whole

end GraphQuery.Query
