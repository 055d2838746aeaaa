import GraphQuery.Proofs.Query.Soundness

/-! What stands in the log of a matcher.

There is one equation for each way to combine matchers. From them it follows that a matcher looks ahead
only: whatever it leaves, accepts or expects is an end of the text that it was given. -/

set_option autoImplicit false

namespace GraphQuery.Query

open Text Grammar Query.Language

def Event.place : Event → List Char
  | .accepted rest => rest
  | .expected rest _ => rest

namespace Matcher

section Logs
variable {α β : Type} {text : List Char} {event : Event}

@[simp] theorem log_pure (value : α) : ((Pure.pure value : Matcher α) text).log = [] := rfl

@[simp] theorem log_reject : ((reject : Matcher α) text).log = [] := rfl

theorem mem_log_bind {first : Matcher α} {next : α → Matcher β} :
    event ∈ ((first >>= next) text).log ↔ event ∈ (first text).log ∨
      ∃ value rest, first.read? text = some (value, rest) ∧ event ∈ (next value rest).log := by
  show event ∈ (Matcher.bind first next text).log ↔ _
  rcases outcome : first text with ⟨_ | ⟨value, rest⟩, log⟩ <;>
    simp [Matcher.bind, read?, outcome]

@[simp] theorem log_optional (matcher : Matcher α) :
    (matcher.optional text).log = (matcher text).log := by
  rcases outcome : matcher text with ⟨_ | ⟨value, rest⟩, log⟩ <;> simp [optional, outcome]

theorem mem_log_orElse {first second : Matcher α} :
    event ∈ (orElse first second text).log ↔
      event ∈ (first text).log ∨ first.read? text = none ∧ event ∈ (second text).log := by
  rcases outcome : first text with ⟨_ | reading, log⟩ <;> simp [orElse, read?, outcome]

theorem mem_log_furthestOf {matchers : List (Matcher α)} :
    event ∈ (furthestOf matchers text).log ↔ ∃ matcher ∈ matchers, event ∈ (matcher text).log := by
  simp [furthestOf]

theorem mem_log_piece {what : List Expectation} {reader : List Char → Option (Reading α)} :
    event ∈ (piece what reader text).log ↔
      (∃ value rest, reader text = some (value, rest) ∧ event = .accepted rest) ∨
        reader text = none ∧ ∃ expected ∈ what, event = .expected text expected := by
  rcases read : reader text with _ | ⟨value, rest⟩ <;> simp [piece, read, eq_comm]

theorem read_of_accepted {what : List Expectation} {reader : List Char → Option (Reading α)}
    {place : List Char} (member : .accepted place ∈ (piece what reader text).log) :
    ∃ value, (piece what reader).read? text = some (value, place) := by
  rcases mem_log_piece.mp member with ⟨value, rest, read, same⟩ | ⟨_, _, _, same⟩
  · cases same
    exact ⟨value, (read?_piece what reader text).trans read⟩
  · cases same

theorem mem_log_many {matcher : Matcher α} :
    event ∈ (many matcher text).log ↔ event ∈ (matcher text).log ∨
      ∃ value rest, matcher.read? text = some (value, rest) ∧ rest.length < text.length ∧
        event ∈ (many matcher rest).log := by
  rw [many]
  rcases outcome : matcher text with ⟨_ | ⟨value, rest⟩, log⟩
  · simp [read?, outcome]
  · by_cases shorter : rest.length < text.length <;> simp [read?, outcome, shorter]

end Logs

structure Forward {α : Type} (matcher : Matcher α) : Prop where
  rest : ∀ {text rest : List Char} {value : α},
    matcher.read? text = some (value, rest) → rest <:+ text
  log : ∀ {text : List Char} {event : Event}, event ∈ (matcher text).log → event.place <:+ text

section Combined
variable {α β : Type} {matcher first second : Matcher α} {next : α → Matcher β}

theorem Forward.pure (value : α) : Forward (Pure.pure value : Matcher α) where
  rest read := by
    obtain ⟨_, rfl⟩ := Prod.mk.inj (Option.some.inj read)
    exact List.suffix_rfl
  log member := by simp at member

theorem Forward.reject : Forward (Matcher.reject : Matcher α) where
  rest read := by cases read
  log member := by simp at member

theorem Forward.piece {what : List Expectation} {reader : List Char → Option (Reading α)}
    (ahead : ∀ {text rest : List Char} {value : α},
      (Matcher.piece what reader).read? text = some (value, rest) → rest <:+ text) :
    Forward (Matcher.piece what reader) where
  rest := ahead
  log member := by
    rcases mem_log_piece.mp member with ⟨value, rest, read, rfl⟩ | ⟨_, expected, _, rfl⟩
    · exact ahead ((read?_piece what reader _).trans read)
    · exact List.suffix_rfl

theorem Forward.bind (head : Forward first) (tail : ∀ value, Forward (next value)) :
    Forward (first >>= next) where
  rest read := by
    obtain ⟨before, middle, begun, ended⟩ := read?_bind_eq_some.mp read
    exact ((tail before).rest ended).trans (head.rest begun)
  log member := by
    rcases mem_log_bind.mp member with early | ⟨before, middle, begun, late⟩
    · exact head.log early
    · exact ((tail before).log late).trans (head.rest begun)

theorem Forward.optional (forward : Forward matcher) : Forward matcher.optional where
  rest read := by
    rcases read?_optional_eq_some.mp read with ⟨value, _, found⟩ | ⟨_, rfl, _⟩
    · exact forward.rest found
    · exact List.suffix_rfl
  log member := forward.log (by simpa using member)

theorem Forward.orElse (head : Forward first) (other : Forward second) :
    Forward (Matcher.orElse first second) where
  rest read := by
    rw [read?_orElse, Option.or_eq_some_iff] at read
    rcases read with found | ⟨_, found⟩
    · exact head.rest found
    · exact other.rest found
  log member := by
    rcases mem_log_orElse.mp member with early | ⟨_, late⟩
    · exact head.log early
    · exact other.log late

theorem Forward.firstOf {matchers : List (Matcher α)} (each : ∀ matcher ∈ matchers, Forward matcher) :
    Forward (Matcher.firstOf matchers) := by
  induction matchers with
  | nil => exact .reject
  | cons first others ih =>
    obtain ⟨head, tail⟩ := List.forall_mem_cons.mp each
    exact head.orElse (ih tail)

theorem Forward.furthestOf {matchers : List (Matcher α)} (each : ∀ matcher ∈ matchers, Forward matcher) :
    Forward (Matcher.furthestOf matchers) where
  rest read := by
    rw [read?_furthestOf] at read
    obtain ⟨matcher, member, found⟩ := List.mem_map.mp (mem_of_longest read)
    exact (each matcher member).rest found
  log member := by
    obtain ⟨matcher, listed, inside⟩ := mem_log_furthestOf.mp member
    exact (each matcher listed).log inside

theorem read?_many_eq_some {text rest : List Char} {values : List α}
    (read : (many matcher).read? text = some (values, rest)) :
    text = rest ∨ ∃ value more middle, matcher.read? text = some (value, middle) ∧
      middle.length < text.length ∧ (many matcher).read? middle = some (more, rest) := by
  rw [read?_many] at read
  split at read
  · simp_all
  · next value middle found =>
    split at read
    · next shorter =>
      obtain ⟨⟨more, left⟩, others, same⟩ := Option.map_eq_some_iff.mp read
      obtain ⟨_, rfl⟩ := Prod.mk.inj same
      exact .inr ⟨value, more, middle, found, shorter, others⟩
    · simp_all

theorem Forward.many (forward : Forward matcher) : Forward (Matcher.many matcher) where
  rest {text rest values} read := by
    induction size : text.length using Nat.strongRecOn generalizing text values with
    | ind n ih =>
      rcases read?_many_eq_some read with rfl | ⟨value, more, middle, found, shorter, others⟩
      · exact List.suffix_rfl
      · exact (ih _ (size ▸ shorter) others rfl).trans (forward.rest found)
  log {text event} member := by
    induction size : text.length using Nat.strongRecOn generalizing text with
    | ind n ih =>
      rcases mem_log_many.mp member with early | ⟨value, middle, found, shorter, late⟩
      · exact forward.log early
      · exact (ih _ (size ▸ shorter) late rfl).trans (forward.rest found)

end Combined
end Matcher

/-! The productions look ahead only. -/

section Pieces
variable {text rest : List Char} {forms : List (List Char)}

theorem suffix_of_gap (gap : Gap text rest) : rest <:+ text := by
  obtain ⟨blanks, _, _, rfl⟩ := gap
  exact List.suffix_append blanks rest

theorem suffix_of_optional_gap (gap : Optional Gap text rest) : rest <:+ text := by
  rcases gap with rfl | gap
  · exact List.suffix_rfl
  · exact suffix_of_gap gap

theorem suffix_of_name (said : Name forms text rest) : rest <:+ text := by
  obtain ⟨form, _, rfl, _⟩ := said
  exact List.suffix_append form rest

theorem suffix_of_valueText {bare : Span} {value : Value} (said : ValueText bare value text rest) :
    rest <:+ text := by
  cases said with
  | @literal quote inside _ _ _ => exact ⟨quote :: (inside ++ [quote]), by simp⟩
  | bare => exact List.suffix_append _ _

end Pieces

section Productions
variable {grammar : Grammar} {entry : TypeEntry}

open Matcher

theorem forward_word (expected : String) : Forward (word expected) :=
  .piece fun read => by
    obtain ⟨found, rfl, _⟩ := word_of_read read
    exact List.suffix_append found _

theorem forward_anyWord (words : List String) : Forward (anyWord words) :=
  .firstOf (List.forall_mem_map.mpr fun expected _ => forward_word expected)

theorem forward_space : Forward space :=
  .piece fun read => suffix_of_gap (gap_of_read read)

theorem forward_endOfQuery : Forward endOfQuery :=
  .piece fun read => by
    obtain ⟨rfl, rfl⟩ := eq_nil_of_read read
    exact List.suffix_rfl

theorem forward_connective : Forward connective :=
  forward_anyWord connectives

theorem forward_article : Forward article :=
  forward_anyWord articles

theorem forward_phrase (words : List String) : Forward (phrase words) := by
  induction words with
  | nil => exact .pure ()
  | cons first others ih =>
    cases others with
    | nil => exact forward_word first
    | cons second others => exact .bind (forward_word first) fun _ => .bind forward_space fun _ => ih

theorem forward_lookup : Forward lookup :=
  .firstOf (List.forall_mem_map.mpr fun found _ => .bind (forward_phrase found.1) fun _ => .pure found.2)

theorem forward_typeName (entry : TypeEntry) : Forward (typeName entry) :=
  .piece fun read => suffix_of_name (name_of_read read)

theorem forward_property (entry : TypeEntry) : Forward (property entry) :=
  .piece fun read => by
    obtain ⟨_, _, _, said⟩ := key_of_read read
    exact suffix_of_name said

theorem forward_comma : Forward comma :=
  .piece fun read => by
    obtain ⟨middle, before, after, rfl, behind⟩ := comma_of_read read
    exact (suffix_of_optional_gap behind).trans
      ((List.suffix_cons ',' after).trans (suffix_of_optional_gap before))

theorem forward_listSeparator : Forward listSeparator :=
  .orElse forward_comma
    (.bind forward_space fun _ => .bind (forward_word "and") fun _ => forward_space)

theorem forward_propertyList (entry : TypeEntry) : Forward (propertyList entry) :=
  .bind (forward_property entry) fun _ =>
    .bind (.many (.bind forward_listSeparator fun _ => forward_property entry)) fun _ => .pure _

theorem forward_projection (entry : TypeEntry) : Forward (projection entry) :=
  .bind (forward_propertyList entry) fun _ =>
    .bind forward_space fun _ =>
      .bind (forward_anyWord projectionJoiners) fun _ =>
        .bind forward_space fun _ =>
          .bind (.optional (.bind (forward_word "the") fun _ => forward_space)) fun _ => .pure _

theorem forward_value : Forward (value grammar entry) :=
  .piece fun read => suffix_of_valueText (value_of_read read : ValueText (anyBare entry .property) _ _ _)

theorem forward_conditionOpening : Forward conditionOpening :=
  .bind (forward_word conditionOpener) fun _ =>
    .bind (.optional (.bind forward_space fun _ => forward_article)) fun _ => forward_space

theorem forward_comparison : Forward (comparison grammar entry) := by
  refine .bind forward_space fun _ => .bind (.optional forward_lookup) fun found => ?_
  have said : Forward (do let value ← value grammar entry; Pure.pure (found.getD defaultLookup, value)) :=
    .bind forward_value fun _ => .pure _
  split
  · exact .bind forward_space fun _ => said
  · exact said

theorem forward_namedCondition : Forward (namedCondition grammar entry) :=
  .bind (forward_property entry) fun _ =>
    .bind (.orElse (.bind forward_space fun _ => .bind (forward_word "of") fun _ => forward_comparison)
      forward_comparison) fun _ => .pure _

theorem forward_impliedCondition : Forward (impliedCondition grammar entry) := by
  unfold impliedCondition
  split
  · exact .reject
  · exact .bind forward_lookup fun _ =>
      .bind forward_space fun _ => .bind forward_value fun _ => .pure _

theorem forward_condition : Forward (condition grammar entry) :=
  .bind (.optional forward_conditionOpening) fun _ =>
    .orElse forward_namedCondition forward_impliedCondition

theorem forward_joined {α : Type} {matcher : Matcher α} (forward : Forward matcher) :
    Forward (joined matcher) :=
  .bind forward_space fun _ => .bind forward_connective fun _ => .bind forward_space fun _ => forward

theorem forward_conditions : Forward (conditions grammar entry) :=
  .bind (.optional (.bind forward_space fun _ =>
    .bind forward_condition fun _ => .bind (.many (forward_joined forward_condition)) fun _ => .pure _))
    fun _ => .pure _

theorem forward_nodeFacet : Forward (nodeFacet grammar entry) :=
  .bind (.optional (forward_projection entry)) fun _ =>
    .bind (forward_typeName entry) fun _ => .bind forward_conditions fun _ => .pure _

theorem forward_anyNodeFacet : Forward (anyNodeFacet grammar) :=
  .furthestOf (List.forall_mem_map.mpr fun _ _ => .bind forward_nodeFacet fun _ => .pure _)

theorem forward_group : Forward (group grammar) :=
  .bind forward_anyNodeFacet fun _ =>
    .bind (.many (forward_joined forward_nodeFacet)) fun _ => .pure _

theorem forward_relationshipFacet (entry : TypeEntry) : Forward (relationshipFacet entry) :=
  .bind (.optional (.bind forward_connective fun _ => forward_space)) fun _ =>
    .bind (forward_anyWord relationshipOpeners) fun _ =>
      .bind forward_space fun _ =>
        .bind (forward_typeName entry) fun _ =>
          .bind (.optional (.bind forward_space fun _ => forward_article)) fun _ => .pure _

theorem forward_anyRelationshipFacet : Forward (anyRelationshipFacet grammar) :=
  .furthestOf (List.forall_mem_map.mpr fun entry _ => forward_relationshipFacet entry)

theorem forward_hop : Forward (hop grammar) :=
  .bind forward_space fun _ =>
    .bind forward_anyRelationshipFacet fun _ =>
      .bind forward_space fun _ => .bind forward_group fun _ => .pure _

theorem forward_tree : Forward (tree grammar) :=
  .bind forward_group fun _ =>
    .bind (.many forward_hop) fun _ => .bind forward_endOfQuery fun _ => .pure _

end Productions

end GraphQuery.Query
