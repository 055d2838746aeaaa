import GraphQuery.Proofs.Query.Readings
import GraphQuery.Query.Productions
import Mathlib.Data.List.Forall2

/-! Matchers over the same types under other ids and other names.

No matcher looks at an id, and a type is found by its forms, not by its name. So the same texts are read. Ids
show in the trees, each in the place of the id that it replaces, and names in the log, where a type is not
found. -/

set_option autoImplicit false

namespace GraphQuery.Text

variable {α β : Type}

theorem further_map (change : α → β) (first second : Option (Reading α)) :
    further (first.map (Prod.map change id)) (second.map (Prod.map change id)) =
      (further first second).map (Prod.map change id) := by
  rcases first with _ | first <;> rcases second with _ | second <;>
    simp only [further, Option.map_some, Option.map_none, Prod.map_snd, id_eq]
  split <;> rfl

theorem longest_map (change : α → β) (readings : List (Option (Reading α))) :
    longest (readings.map (Option.map (Prod.map change id))) =
      (longest readings).map (Prod.map change id) := by
  have from_start : ∀ start : Option (Reading α),
      (readings.map (Option.map (Prod.map change id))).foldl further (start.map (Prod.map change id)) =
        (readings.foldl further start).map (Prod.map change id) := by
    induction readings with
    | nil => exact fun _ => rfl
    | cons reading rest ih =>
      intro start
      rw [List.map_cons, List.foldl_cons, List.foldl_cons, further_map, ih]
  exact from_start none

end GraphQuery.Text

namespace GraphQuery

open Text Grammar

def Grammar.TypeEntry.rename (ids : TypeId → TypeId) (names : String → String) (entry : TypeEntry) :
    TypeEntry :=
  { entry with id := ids entry.id, name := names entry.name }

def Grammar.rename (ids : Kind → TypeId → TypeId) (names : String → String) (grammar : Grammar) :
    Grammar where
  nodeEntries := grammar.nodeEntries.map (·.rename (ids .node) names)
  relationshipEntries := grammar.relationshipEntries.map (·.rename (ids .relationship) names)

namespace Query

def Facet.renumber (ids : Kind → TypeId → TypeId) (facet : Facet) : Facet :=
  { facet with typeId := ids .node facet.typeId }

def Hop.renumber (ids : Kind → TypeId → TypeId) (hop : Hop) : Hop where
  relation := ids .relationship hop.relation
  targets := hop.targets.map (·.renumber ids)

def Tree.renumber (ids : Kind → TypeId → TypeId) (tree : Tree) : Tree where
  sources := tree.sources.map (·.renumber ids)
  hops := tree.hops.map (·.renumber ids)

theorem Tree.renumber_same (tree : Tree) : tree.renumber (fun _ id => id) = tree := by
  have facets : ∀ facets : List Facet, facets.map (·.renumber fun _ id => id) = facets := List.map_id'
  have hops : ∀ hop : Hop, hop.renumber (fun _ id => id) = hop := by
    intro hop
    rw [Hop.renumber, facets]
  simp only [Tree.renumber, facets, hops, List.map_id']

/-! Matchers that yield other values and log other names. -/

inductive Event.Renamed (names : String → String) : Event → Event → Prop where
  | same (event : Event) : Renamed names event event
  | name (rest : List Char) (name : String) :
      Renamed names (.expected rest (.name name)) (.expected rest (.name (names name)))

theorem Event.eq_of_renamed_id {log log' : List Event}
    (renamed : List.Forall₂ (Event.Renamed id) log log') : log = log' := by
  rw [← List.forall₂_eq_eq_eq]
  apply renamed.imp
  rintro _ _ ⟨⟩ <;> rfl

inductive Outcome.Renamed {α β : Type} (names : String → String) (change : α → β) :
    Outcome α → Outcome β → Prop where
  | refused {log log' : List Event} :
      List.Forall₂ (Event.Renamed names) log log' → Renamed names change ⟨none, log⟩ ⟨none, log'⟩
  | read {value : α} {rest : List Char} {log log' : List Event} :
      List.Forall₂ (Event.Renamed names) log log' →
        Renamed names change ⟨some (value, rest), log⟩ ⟨some (change value, rest), log'⟩

namespace Outcome.Renamed
variable {α β : Type} {names : String → String} {change : α → β} {first : Outcome α} {second : Outcome β}

theorem result (renamed : Renamed names change first second) :
    second.result = first.result.map (Prod.map change id) := by
  cases renamed <;> rfl

theorem log (renamed : Renamed names change first second) :
    List.Forall₂ (Event.Renamed names) first.log second.log := by
  cases renamed <;> assumption

theorem of_result (result : second.result = first.result.map (Prod.map change id))
    (log : List.Forall₂ (Event.Renamed names) first.log second.log) : Renamed names change first second := by
  rcases first with ⟨_ | ⟨value, rest⟩, _⟩ <;> rcases second with ⟨_, _⟩ <;> subst result
  · exact .refused log
  · exact .read log

end Outcome.Renamed

namespace Matcher

/-- Both do the same at every text, but for the values that they yield and the names that they log. -/
def Renamed {α β : Type} (names : String → String) (change : α → β) (first : Matcher α)
    (second : Matcher β) : Prop :=
  ∀ text, Outcome.Renamed names change (first text) (second text)

section Combined
variable {α β γ δ : Type} {names : String → String} {change : α → β} {change' : γ → δ}
  {first : Matcher α} {second : Matcher β}

theorem Renamed.read (renamed : Renamed names change first second) (text : List Char) :
    second.read? text = (first.read? text).map (Prod.map change id) :=
  (renamed text).result

theorem Renamed.accepts (renamed : Renamed names change first second) (text : List Char) :
    second.accepts text = first.accepts text := by
  rw [accepts_eq_isSome, accepts_eq_isSome, renamed.read, Option.isSome_map]

theorem Renamed.refl (matcher : Matcher α) : Renamed names id matcher matcher := by
  intro text
  apply Outcome.Renamed.of_result
  · rw [Prod.map_id, Option.map_id, id_eq]
  · exact List.forall₂_same.mpr fun event _ => .same event

theorem Renamed.pure (value : α) :
    Renamed names change (Pure.pure value) (Pure.pure (change value)) :=
  fun _ => .read .nil

theorem Renamed.piece {what what' : List Expectation} (reader : List Char → Option (Reading α))
    (expected : ∀ text, List.Forall₂ (Event.Renamed names) (what.map (.expected text))
      (what'.map (.expected text))) :
    Renamed names id (Matcher.piece what reader) (Matcher.piece what' reader) := by
  intro text
  unfold Matcher.piece
  cases reader text with
  | none => exact .refused (expected text)
  | some reading => exact .read (.cons (.same _) .nil)

theorem Renamed.bind (head : Renamed names change first second) {next : α → Matcher γ}
    {next' : β → Matcher δ} (tail : ∀ value, Renamed names change' (next value) (next' (change value))) :
    Renamed names change' (first >>= next) (second >>= next') := by
  intro text
  show Outcome.Renamed names change' (Matcher.bind first next text) (Matcher.bind second next' text)
  have begun := head text
  unfold Matcher.bind
  generalize first text = before, second text = after at begun
  cases begun with
  | refused logs => exact .refused logs
  | @read value rest _ _ logs =>
    have ended := tail value rest
    exact .of_result ended.result (List.rel_append logs ended.log)

theorem Renamed.many (renamed : Renamed names change first second) :
    Renamed names (List.map change) first.many second.many := by
  intro text
  -- On how much text there is, since a repetition goes on only with less of it.
  induction size : text.length using Nat.strongRecOn generalizing text with
  | ind size ih =>
    have begun := renamed text
    rw [Matcher.many, Matcher.many]
    generalize first text = before, second text = after at begun
    cases begun with
    | refused logs => exact .read logs
    | @read value rest _ _ logs =>
      by_cases shorter : rest.length < text.length
      · have more := ih _ (size ▸ shorter) rest rfl
        simp only [if_pos shorter]
        apply Outcome.Renamed.of_result
        · simp only [more.result, Option.map_map]
          rfl
        · exact List.rel_append logs more.log
      · simp only [if_neg shorter]
        exact .read logs

section Lists
variable {ι : Type} {values : List ι} {matchers : ι → Matcher α} {matchers' : ι → Matcher β}
  (each : ∀ value, Renamed names change (matchers value) (matchers' value))
include each

theorem Renamed.firstOf :
    Renamed names change (Matcher.firstOf (values.map matchers)) (Matcher.firstOf (values.map matchers')) := by
  intro text
  induction values with
  | nil => exact .refused .nil
  | cons value rest ih =>
    have begun := each value text
    rw [List.map_cons, List.map_cons, Matcher.firstOf, Matcher.firstOf, Matcher.orElse, Matcher.orElse]
    generalize matchers value text = before, matchers' value text = after at begun
    cases begun with
    | refused logs => exact .of_result ih.result (List.rel_append logs ih.log)
    | read logs => exact .read logs

theorem Renamed.furthestOf :
    Renamed names change (Matcher.furthestOf (values.map matchers))
      (Matcher.furthestOf (values.map matchers')) := by
  intro text
  apply Outcome.Renamed.of_result
  · show read? (Matcher.furthestOf (values.map matchers')) text =
      (read? (Matcher.furthestOf (values.map matchers)) text).map (Prod.map change id)
    rw [read?_furthestOf, read?_furthestOf, ← Text.longest_map, List.map_map, List.map_map, List.map_map]
    congr 1
    exact List.map_congr_left fun value _ => (each value).read text
  · induction values with
    | nil => exact .nil
    | cons value rest ih => exact List.rel_append (each value text).log ih

end Lists
end Combined
end Matcher

open Matcher

section Productions
variable (ids : Kind → TypeId → TypeId) (names : String → String) (grammar : Grammar)
  (entry : TypeEntry) (change : TypeId → TypeId)

theorem renamed_typeName : Renamed names id (typeName entry) (typeName (entry.rename change names)) :=
  .piece _ fun text => .cons (.name text entry.name) .nil

/-! Conditions name no types, and values end where they did. -/

theorem renamed_relationshipStart :
    Renamed names id (relationshipStart grammar) (relationshipStart (grammar.rename ids names)) := by
  unfold relationshipStart Grammar.rename
  rw [List.map_map]
  exact .bind (.refl _) fun _ => .bind (.refl _) fun _ =>
    .firstOf fun entry => renamed_typeName names entry (ids .relationship)

theorem conditions_rename :
    conditions (grammar.rename ids names) (entry.rename change names) = conditions grammar entry := by
  have starts := (renamed_relationshipStart ids names grammar).accepts
  have continues : continuation (grammar.rename ids names) (entry.rename change names) =
      continuation grammar entry := by
    funext text
    rw [continuation, continuation, starts, (renamed_typeName names entry change).accepts]
    rfl
  have ends : endsValue (grammar.rename ids names) (entry.rename change names) = endsValue grammar entry := by
    funext text
    simp only [endsValue, starts, continues]
  unfold conditions condition namedCondition impliedCondition comparison value
  rw [ends]
  rfl

/-! The productions that name types. -/

theorem renamed_nodeFacet : Renamed names (·.renumber ids) (nodeFacet grammar entry)
    (nodeFacet (grammar.rename ids names) (entry.rename (ids .node) names)) := by
  unfold nodeFacet
  rw [conditions_rename]
  exact .bind (.refl _) fun _ => .bind (renamed_typeName names entry _) fun _ =>
    .bind (.refl _) fun _ => .pure _

theorem renamed_anyNodeFacet :
    Renamed names (fun found => (found.1.rename (ids .node) names, found.2.renumber ids))
      (anyNodeFacet grammar) (anyNodeFacet (grammar.rename ids names)) := by
  have entries : (grammar.rename ids names).nodeEntries =
      grammar.nodeEntries.map (·.rename (ids .node) names) := rfl
  unfold anyNodeFacet
  rw [entries, List.map_map]
  exact .furthestOf fun entry => .bind (renamed_nodeFacet ids names grammar entry) fun _ => .pure _

theorem renamed_joined {α β : Type} {change : α → β} {first : Matcher α} {second : Matcher β}
    (renamed : Renamed names change first second) : Renamed names change (joined first) (joined second) :=
  .bind (.refl space) fun _ => .bind (.refl connective) fun _ => .bind (.refl space) fun _ => renamed

theorem renamed_group :
    Renamed names (List.map (·.renumber ids)) (group grammar) (group (grammar.rename ids names)) :=
  .bind (renamed_anyNodeFacet ids names grammar) fun found =>
    .bind (.many (renamed_joined names (renamed_nodeFacet ids names grammar found.1))) fun _ => .pure _

theorem renamed_relationshipFacet :
    Renamed names change (relationshipFacet entry) (relationshipFacet (entry.rename change names)) :=
  .bind (.refl _) fun _ => .bind (.refl _) fun _ => .bind (.refl _) fun _ =>
    .bind (renamed_typeName names entry change) fun _ => .bind (.refl _) fun _ => .pure _

theorem renamed_anyRelationshipFacet :
    Renamed names (ids .relationship) (anyRelationshipFacet grammar)
      (anyRelationshipFacet (grammar.rename ids names)) := by
  have entries : (grammar.rename ids names).relationshipEntries =
      grammar.relationshipEntries.map (·.rename (ids .relationship) names) := rfl
  unfold anyRelationshipFacet
  rw [entries, List.map_map]
  exact .furthestOf fun entry => renamed_relationshipFacet names entry (ids .relationship)

theorem renamed_hop : Renamed names (·.renumber ids) (hop grammar) (hop (grammar.rename ids names)) :=
  .bind (.refl space) fun _ => .bind (renamed_anyRelationshipFacet ids names grammar) fun _ =>
    .bind (.refl space) fun _ => .bind (renamed_group ids names grammar) fun _ => .pure _

theorem renamed_tree : Renamed names (·.renumber ids) (tree grammar) (tree (grammar.rename ids names)) :=
  .bind (renamed_group ids names grammar) fun _ => .bind (.many (renamed_hop ids names grammar)) fun _ =>
    .bind (.refl endOfQuery) fun _ => .pure _

end Productions
end Query
end GraphQuery
