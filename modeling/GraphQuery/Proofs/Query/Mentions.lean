import GraphQuery.Proofs.Query.Logs
import Mathlib.Data.List.Infix

/-! Types that a text does not mention have no say in how it is read.

A type is mentioned where one of its forms occurs. The others can be left out of the grammar: wherever
their names are looked for they are not found, be it for a facet or to see where a bare value ends. -/

set_option autoImplicit false

namespace GraphQuery.Text

variable {α β : Type}

theorem longest_map_filter {readings : α → Option (Reading β)} {keep : α → Bool} {values : List α}
    (dropped : ∀ value ∈ values, keep value = false → readings value = none) :
    longest (values.map readings) = longest ((values.filter keep).map readings) := by
  have from_start : ∀ start, (values.map readings).foldl further start =
      ((values.filter keep).map readings).foldl further start := by
    induction values with
    | nil => exact fun _ => rfl
    | cons first rest ih =>
      intro start
      obtain ⟨here, later⟩ := List.forall_mem_cons.mp dropped
      cases kept : keep first with
      | true => simp only [List.filter_cons_of_pos kept, List.map_cons, List.foldl_cons, ih later]
      | false =>
        have same : further start none = start := by cases start <;> rfl
        rw [List.filter_cons_of_neg (by simp [kept]), List.map_cons, List.foldl_cons, here kept, same,
          ih later]
  exact from_start none

theorem findSome?_filter {readings : α → Option β} {keep : α → Bool} {values : List α}
    (dropped : ∀ value ∈ values, keep value = false → readings value = none) :
    values.findSome? readings = (values.filter keep).findSome? readings := by
  induction values with
  | nil => rfl
  | cons first rest ih =>
    obtain ⟨here, later⟩ := List.forall_mem_cons.mp dropped
    cases kept : keep first with
    | true => simp only [List.filter_cons_of_pos kept, List.findSome?_cons, ih later]
    | false =>
      rw [List.filter_cons_of_neg (by simp [kept]),
        List.findSome?_cons_of_isNone (by simp [here kept]), ih later]

end GraphQuery.Text

namespace GraphQuery

namespace Grammar

def TypeEntry.Mentioned (text : List Char) (entry : TypeEntry) : Prop :=
  ∃ form ∈ entry.forms, form <:+: text

instance (text : List Char) (entry : TypeEntry) : Decidable (entry.Mentioned text) :=
  inferInstanceAs (Decidable (∃ form ∈ entry.forms, form <:+: text))

def mentioned (text : List Char) (grammar : Grammar) : Grammar where
  nodeEntries := grammar.nodeEntries.filter (·.Mentioned text)
  relationshipEntries := grammar.relationshipEntries.filter (·.Mentioned text)

end Grammar

namespace Query

open Text Grammar Query.Language Matcher

namespace Matcher

structure Agree {α : Type} (whole : List Char) (first second : Matcher α) : Prop
    extends Forward first where
  same : ∀ {text : List Char}, text <:+ whole → first.read? text = second.read? text

section Combined
variable {α β : Type} {whole : List Char} {matcher first second first' second' : Matcher α}
  {next next' : α → Matcher β}

theorem Agree.refl (forward : Forward matcher) : Agree whole matcher matcher where
  toForward := forward
  same _ := rfl

theorem Agree.bind (head : Agree whole first first')
    (tail : ∀ value, Agree whole (next value) (next' value)) :
    Agree whole (first >>= next) (first' >>= next') where
  toForward := head.toForward.bind fun value => (tail value).toForward
  same {text} within := by
    rw [read?_bind, read?_bind, ← head.same within]
    cases begun : first.read? text with
    | none => rfl
    | some reading => exact (tail reading.1).same ((head.rest begun).trans within)

theorem Agree.optional (agree : Agree whole first first') :
    Agree whole first.optional first'.optional where
  toForward := agree.toForward.optional
  same within := by rw [read?_optional, read?_optional, agree.same within]

theorem Agree.orElse (agree : Agree whole first first') (other : Agree whole second second') :
    Agree whole (Matcher.orElse first second) (Matcher.orElse first' second') where
  toForward := agree.toForward.orElse other.toForward
  same within := by rw [read?_orElse, read?_orElse, agree.same within, other.same within]

theorem Agree.many (agree : Agree whole first first') : Agree whole first.many first'.many where
  toForward := agree.toForward.many
  same {text} within := by
    -- On how much text there is, as for every repetition.
    induction size : text.length using Nat.strongRecOn generalizing text with
    | ind size ih =>
      rw [read?_many, read?_many, ← agree.same within]
      cases begun : first.read? text with
      | none => rfl
      | some reading =>
        simp only
        split
        · next shorter => rw [ih _ (size ▸ shorter) ((agree.rest begun).trans within) rfl]
        · rfl

section Lists
variable {values : List β} {keep : β → Bool} {matchers matchers' : β → Matcher α}
  (agree : ∀ value, Agree whole (matchers value) (matchers' value))
  (refused : ∀ value ∈ values, keep value = false →
    ∀ {text}, text <:+ whole → (matchers value).read? text = none)
include agree refused

/-- Alternatives that refuse every part of a text can be left out. -/
theorem Agree.firstOf : Agree whole (Matcher.firstOf (values.map matchers))
    (Matcher.firstOf ((values.filter keep).map matchers')) where
  toForward := .firstOf (List.forall_mem_map.mpr fun value _ => (agree value).toForward)
  same {text} within := by
    have alike : (fun value => (matchers' value).read? text) = fun value => (matchers value).read? text :=
      funext fun value => ((agree value).same within).symm
    rw [read?_firstOf, read?_firstOf, List.findSome?_map, List.findSome?_map]
    simp only [Function.comp_def, alike]
    exact findSome?_filter fun value member dropped => refused value member dropped within

theorem Agree.furthestOf : Agree whole (Matcher.furthestOf (values.map matchers))
    (Matcher.furthestOf ((values.filter keep).map matchers')) where
  toForward := .furthestOf (List.forall_mem_map.mpr fun value _ => (agree value).toForward)
  same {text} within := by
    have alike : (fun value => (matchers' value).read? text) = fun value => (matchers value).read? text :=
      funext fun value => ((agree value).same within).symm
    rw [read?_furthestOf, read?_furthestOf, List.map_map, List.map_map]
    simp only [Function.comp_def, alike]
    exact longest_map_filter fun value member dropped => refused value member dropped within

end Lists
end Combined
end Matcher

section Productions
variable {grammar : Grammar} {entry : TypeEntry} {whole text : List Char}

theorem typeName_refused_of_unmentioned (unmentioned : ¬ entry.Mentioned whole)
    (within : text <:+ whole) : (typeName entry).read? text = none := by
  refine read?_eq_none fun read => unmentioned ?_
  obtain ⟨form, listed, rfl, _⟩ := name_of_read read
  exact ⟨form, listed, (List.prefix_append form _).isInfix.trans within.isInfix⟩

/-! Where a bare value ends. -/

theorem agree_relationshipStart :
    Agree whole (relationshipStart grammar) (relationshipStart (grammar.mentioned whole)) :=
  .bind (.refl (forward_anyWord relationshipOpeners)) fun _ => .bind (.refl forward_space) fun _ =>
    .firstOf (fun entry => .refl (forward_typeName entry)) fun _ _ unmentioned _ within =>
      typeName_refused_of_unmentioned (by simpa using unmentioned) within

theorem accepts_relationshipStart (within : text <:+ whole) :
    (relationshipStart grammar).accepts text =
      (relationshipStart (grammar.mentioned whole)).accepts text := by
  rw [accepts_eq_isSome, accepts_eq_isSome, agree_relationshipStart.same within]

theorem continuation_mentioned (within : text <:+ whole) :
    continuation grammar entry text = continuation (grammar.mentioned whole) entry text := by
  rw [continuation, continuation, accepts_relationshipStart within]

theorem endsValue_mentioned (within : text <:+ whole) :
    endsValue grammar entry text = endsValue (grammar.mentioned whole) entry text := by
  unfold endsValue
  cases spaced : readSpace? text with
  | none => rfl
  | some reading =>
    have after : reading.2 <:+ whole := (suffix_of_gap (gap_of_readSpace spaced)).trans within
    have forward : Forward (do connective; space : Matcher Unit) :=
      .bind forward_connective fun _ => forward_space
    simp only
    rw [accepts_relationshipStart after]
    congr 1
    split
    · rfl
    · next connected => exact continuation_mentioned ((forward.rest connected).trans after)

theorem splitAtStop_congr {stops stops' : List Char → Bool}
    (same : ∀ {text}, text <:+ whole → stops text = stops' text) (within : text <:+ whole) :
    splitAtStop stops text = splitAtStop stops' text := by
  induction text with
  | nil => rfl
  | cons c text ih =>
    rw [splitAtStop, splitAtStop, same within, ih ((List.suffix_cons c text).trans within)]

theorem agree_value : Agree whole (value grammar entry) (value (grammar.mentioned whole) entry) where
  toForward := forward_value
  same within := by
    rw [value, value, read?_piece, read?_piece, readBare?, readBare?,
      splitAtStop_congr endsValue_mentioned within]

/-! Every production. -/

theorem agree_comparison :
    Agree whole (comparison grammar entry) (comparison (grammar.mentioned whole) entry) := by
  refine .bind (.refl forward_space) fun _ => .bind (.refl (.optional forward_lookup)) fun found => ?_
  have said : Agree whole
      (do let value ← value grammar entry
          Pure.pure (found.getD defaultLookup, value))
      (do let value ← value (grammar.mentioned whole) entry
          Pure.pure (found.getD defaultLookup, value)) :=
    .bind agree_value fun _ => .refl (.pure _)
  split
  · exact .bind (.refl forward_space) fun _ => said
  · exact said

theorem agree_namedCondition :
    Agree whole (namedCondition grammar entry) (namedCondition (grammar.mentioned whole) entry) :=
  .bind (.refl (forward_property entry)) fun _ =>
    .bind (.orElse (.bind (.refl forward_space) fun _ => .bind (.refl (forward_word "of")) fun _ =>
      agree_comparison) agree_comparison) fun _ => .refl (.pure _)

theorem agree_impliedCondition :
    Agree whole (impliedCondition grammar entry) (impliedCondition (grammar.mentioned whole) entry) := by
  unfold impliedCondition
  split
  · exact .refl .reject
  · exact .bind (.refl forward_lookup) fun _ =>
      .bind (.refl forward_space) fun _ => .bind agree_value fun _ => .refl (.pure _)

theorem agree_condition :
    Agree whole (condition grammar entry) (condition (grammar.mentioned whole) entry) :=
  .bind (.refl (.optional forward_conditionOpening)) fun _ =>
    .orElse agree_namedCondition agree_impliedCondition

theorem agree_joined {α : Type} {first second : Matcher α} (agree : Agree whole first second) :
    Agree whole (joined first) (joined second) :=
  .bind (.refl forward_space) fun _ => .bind (.refl forward_connective) fun _ =>
    .bind (.refl forward_space) fun _ => agree

theorem agree_conditions :
    Agree whole (conditions grammar entry) (conditions (grammar.mentioned whole) entry) :=
  .bind (.optional (.bind (.refl forward_space) fun _ =>
    .bind agree_condition fun _ => .bind (.many (agree_joined agree_condition)) fun _ =>
      .refl (.pure _))) fun _ => .refl (.pure _)

theorem agree_nodeFacet :
    Agree whole (nodeFacet grammar entry) (nodeFacet (grammar.mentioned whole) entry) :=
  .bind (.refl (.optional (forward_projection entry))) fun _ =>
    .bind (.refl (forward_typeName entry)) fun _ => .bind agree_conditions fun _ => .refl (.pure _)

theorem nodeFacet_refused_of_unmentioned (unmentioned : ¬ entry.Mentioned whole)
    (within : text <:+ whole) : (nodeFacet grammar entry).read? text = none := by
  refine read?_eq_none fun read => ?_
  obtain ⟨_, middle, projected, more⟩ := read?_bind_eq_some.mp read
  have ahead := (forward_projection entry).optional.rest projected
  rw [read?_bind_of_eq_none (typeName_refused_of_unmentioned unmentioned (ahead.trans within))] at more
  cases more

theorem agree_anyNodeFacet :
    Agree whole (anyNodeFacet grammar) (anyNodeFacet (grammar.mentioned whole)) :=
  .furthestOf (fun _ => .bind agree_nodeFacet fun _ => .refl (.pure _)) fun _ _ unmentioned _ within =>
    read?_bind_of_eq_none (nodeFacet_refused_of_unmentioned (by simpa using unmentioned) within)

theorem agree_group : Agree whole (group grammar) (group (grammar.mentioned whole)) :=
  .bind agree_anyNodeFacet fun _ => .bind (.many (agree_joined agree_nodeFacet)) fun _ => .refl (.pure _)

theorem relationshipFacet_refused_of_unmentioned (unmentioned : ¬ entry.Mentioned whole)
    (within : text <:+ whole) : (relationshipFacet entry).read? text = none := by
  have connected : Forward (do connective; space : Matcher Unit).optional :=
    .optional (.bind forward_connective fun _ => forward_space)
  refine read?_eq_none fun read => ?_
  obtain ⟨_, first, before, read⟩ := read?_bind_eq_some.mp read
  obtain ⟨_, second, opener, read⟩ := read?_bind_eq_some.mp read
  obtain ⟨_, third, gap, read⟩ := read?_bind_eq_some.mp read
  have ahead : third <:+ text := (forward_space.rest gap).trans
    (((forward_anyWord relationshipOpeners).rest opener).trans (connected.rest before))
  rw [read?_bind_of_eq_none (typeName_refused_of_unmentioned unmentioned (ahead.trans within))] at read
  cases read

theorem agree_anyRelationshipFacet :
    Agree whole (anyRelationshipFacet grammar) (anyRelationshipFacet (grammar.mentioned whole)) :=
  .furthestOf (fun entry => .refl (forward_relationshipFacet entry)) fun _ _ unmentioned _ within =>
    relationshipFacet_refused_of_unmentioned (by simpa using unmentioned) within

theorem agree_hop : Agree whole (hop grammar) (hop (grammar.mentioned whole)) :=
  .bind (.refl forward_space) fun _ => .bind agree_anyRelationshipFacet fun _ =>
    .bind (.refl forward_space) fun _ => .bind agree_group fun _ => .refl (.pure _)

theorem agree_tree : Agree whole (tree grammar) (tree (grammar.mentioned whole)) :=
  .bind agree_group fun _ => .bind (.many agree_hop) fun _ =>
    .bind (.refl forward_endOfQuery) fun _ => .refl (.pure _)

/-- A text is read by the types that it mentions. -/
theorem read_tree_mentioned (grammar : Grammar) (text : List Char) :
    (tree grammar).read? text = (tree (grammar.mentioned text)).read? text :=
  agree_tree.same List.suffix_rfl

end Productions
end Query
end GraphQuery
