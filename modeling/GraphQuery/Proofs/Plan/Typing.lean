import GraphQuery.Proofs.Plan.Labels
import GraphQuery.Proofs.Query.Normalization
import Mathlib.Data.List.Forall2

/-! Plans fit the schema that they were made for.

Every facet and every relationship of a query adds one portion to the plan: an origin, what to return of
it, and the conditions on it. What a portion may speak of is said once, for one portion, and what holds
of a whole plan follows from the order of its portions. -/

set_option autoImplicit false

namespace GraphQuery

open Grammar Query Query.Language

def Origin.HasKey (schema : Schema) (origin : Origin) (key : String) : Prop :=
  ∃ type ∈ schema.types origin.kind, type.id = origin.typeId ∧ key ∈ type.properties.map (·.key)

/-- Of a relationship no property is returned; of a node all of it, or some of its properties. -/
structure Selection.Fits (schema : Schema) (origin : Origin) (selection : Selection) : Prop where
  label : selection.label = origin.label
  relationship : origin.kind = .relationship → selection.properties = some []
  node : origin.kind = .node → ∀ keys, selection.properties = some keys →
    keys ≠ [] ∧ ∀ key ∈ keys, origin.HasKey schema key

structure Condition.Fits (schema : Schema) (origin : Origin) (condition : Condition) : Prop where
  label : condition.label = origin.label
  node : origin.kind = .node
  key : origin.HasKey schema condition.key

namespace Plan

structure WellTyped (schema : Schema) (plan : Plan) : Prop where
  declared : ∀ origin ∈ plan.origins, ∃ type ∈ schema.types origin.kind, type.id = origin.typeId
  aligned : plan.results.map (·.label) = plan.origins.map (·.label)
  results : List.Forall₂ (Selection.Fits schema) plan.origins plan.results
  conditions : ∀ condition ∈ plan.conditions, ∃ origin ∈ plan.origins, condition.Fits schema origin
  /-- The conditions on an origin come before those on later origins. -/
  ordered : plan.conditions =
    plan.origins.flatMap fun origin => plan.conditions.filter (·.label == origin.label)

/-! Portions. -/

structure Portion where
  origin : Origin
  selection : Selection
  conditions : List Condition

structure Portion.Fits (schema : Schema) (portion : Portion) : Prop where
  declared : ∃ type ∈ schema.types portion.origin.kind, type.id = portion.origin.typeId
  selection : portion.selection.Fits schema portion.origin
  conditions : ∀ condition ∈ portion.conditions, condition.Fits schema portion.origin

/-- A plan put together from portions that fit, in their order. -/
structure MadeOf (schema : Schema) (portions : List Portion) (plan : Plan) : Prop where
  origins : plan.origins = portions.map (·.origin)
  results : plan.results = portions.map (·.selection)
  conditions : plan.conditions = portions.flatMap (·.conditions)
  fit : ∀ portion ∈ portions, portion.Fits schema

variable {schema : Schema} {plan other : Plan} {portions more : List Portion}

theorem madeOf_empty : MadeOf schema [] ∅ where
  origins := rfl
  results := rfl
  conditions := rfl
  fit portion member := by cases member

theorem madeOf_ofLink (source relation target : Option Origin) :
    MadeOf schema [] (ofLink source relation target) where
  origins := origins_ofLink source relation target
  results := results_ofLink source relation target
  conditions := conditions_ofLink source relation target
  fit portion member := by cases member

theorem MadeOf.append (first : MadeOf schema portions plan) (second : MadeOf schema more other) :
    MadeOf schema (portions ++ more) (plan ++ other) where
  origins := by simp [first.origins, second.origins]
  results := by simp [first.results, second.results]
  conditions := by simp [first.conditions, second.conditions]
  fit portion member := by
    rcases List.mem_append.mp member with member | member
    · exact first.fit portion member
    · exact second.fit portion member

/-- The conditions of a portion are those that bear its label, if no other portion has that label. -/
theorem filter_conditions (distinct : (portions.map (·.origin.label)).Nodup)
    (fit : ∀ portion ∈ portions, portion.Fits schema) {portion : Portion} (member : portion ∈ portions) :
    (portions.flatMap (·.conditions)).filter (·.label == portion.origin.label) =
      portion.conditions := by
  -- A portion has all of its own conditions and none of another one.
  have own : ∀ owner ∈ portions, ∀ label, (owner.conditions.filter (·.label == label)) =
      if owner.origin.label = label then owner.conditions else [] := by
    intro owner inside label
    split
    · next same =>
      apply List.filter_eq_self.mpr
      intro condition listed
      simpa [same] using ((fit owner inside).conditions condition listed).label
    · next differ =>
      apply List.filter_eq_nil_iff.mpr
      intro condition listed
      simpa [((fit owner inside).conditions condition listed).label] using differ
  induction portions with
  | nil => cases member
  | cons first rest ih =>
    obtain ⟨absent, distinct⟩ := List.nodup_cons.mp distinct
    rw [List.flatMap_cons, List.filter_append, own first List.mem_cons_self]
    rcases List.mem_cons.mp member with rfl | member
    · have none : (rest.flatMap (·.conditions)).filter (·.label == portion.origin.label) = [] := by
        rw [List.filter_flatMap, List.flatMap_eq_nil_iff]
        intro owner inside
        rw [own owner (List.mem_cons_of_mem _ inside), if_neg]
        exact fun same => absent (List.mem_map.mpr ⟨owner, inside, same⟩)
      simp [none]
    · rw [if_neg fun same => absent (List.mem_map.mpr ⟨portion, member, same.symm⟩),
        List.nil_append]
      exact ih distinct (fun owner inside => fit owner (List.mem_cons_of_mem first inside)) member
        fun owner inside => own owner (List.mem_cons_of_mem first inside)

theorem MadeOf.wellTyped (made : MadeOf schema portions plan)
    (distinct : (plan.origins.map (·.label)).Nodup) : WellTyped schema plan where
  declared origin member := by
    rw [made.origins] at member
    obtain ⟨portion, inside, rfl⟩ := List.mem_map.mp member
    exact (made.fit portion inside).declared
  aligned := by
    rw [made.origins, made.results, List.map_map, List.map_map]
    exact List.map_congr_left fun portion inside => (made.fit portion inside).selection.label
  results := by
    rw [made.origins, made.results, List.forall₂_map_left_iff, List.forall₂_map_right_iff,
      List.forall₂_same]
    exact fun portion inside => (made.fit portion inside).selection
  conditions condition member := by
    rw [made.conditions] at member
    obtain ⟨portion, inside, listed⟩ := List.mem_flatMap.mp member
    refine ⟨portion.origin, ?_, (made.fit portion inside).conditions condition listed⟩
    rw [made.origins]
    exact List.mem_map_of_mem inside
  ordered := by
    rw [made.origins, List.map_map] at distinct
    rw [made.origins, made.conditions, List.flatMap_map]
    simp only [List.flatMap]
    congr 1
    exact List.map_congr_left fun portion inside =>
      (filter_conditions distinct made.fit inside).symm

/-! Facets that speak of declared properties only. -/

def FacetFits (schema : Schema) (facet : Facet) : Prop :=
  ∃ type ∈ schema.types .node, type.id = facet.typeId ∧
    (∀ keys, facet.projection = some keys →
      keys ≠ [] ∧ ∀ key ∈ keys, key ∈ type.properties.map (·.key)) ∧
    ∀ clause ∈ facet.clauses, clause.key ∈ type.properties.map (·.key)

def Portion.ofFacet (id : TypeId) (label : String) (facet : Facet) : Portion where
  origin := ⟨id, .node, label⟩
  selection := ⟨label, facet.projection⟩
  conditions := facet.clauses.map fun clause => ⟨clause.lookup, label, clause.key, clause.value.text⟩

theorem Portion.fits_ofFacet {facet : Facet} (fits : FacetFits schema facet) (label : String) :
    (Portion.ofFacet facet.typeId label facet).Fits schema := by
  obtain ⟨type, declared, same, projection, clauses⟩ := fits
  constructor
  · exact ⟨type, declared, same⟩
  · refine ⟨rfl, nofun, fun _ keys listed => ?_⟩
    obtain ⟨some, known⟩ := projection keys listed
    exact ⟨some, fun key inside => ⟨type, declared, same, known key inside⟩⟩
  · intro condition member
    obtain ⟨clause, inside, rfl⟩ := List.mem_map.mp member
    exact ⟨rfl, rfl, type, declared, same, clauses clause inside⟩

def Portion.ofRelation (id : TypeId) (label : String) : Portion where
  origin := ⟨id, .relationship, label⟩
  selection := ⟨label, some []⟩
  conditions := []

theorem Portion.fits_ofRelation {type : NodeType} (declared : type ∈ schema.types .relationship)
    (label : String) : (Portion.ofRelation type.id label).Fits schema := by
  constructor
  · exact ⟨type, declared, rfl⟩
  · exact ⟨rfl, fun _ => rfl, nofun⟩
  · intro condition member
    cases member

theorem madeOf_single {portion : Portion} (fits : portion.Fits schema) :
    MadeOf schema [portion]
      { conditions := portion.conditions, origins := [portion.origin], results := [portion.selection] } where
  origins := rfl
  results := rfl
  conditions := (List.append_nil _).symm
  fit _ member := List.mem_singleton.mp member ▸ fits

variable {labels after : Labels}

theorem exists_portion_of_ofFacet {facet : Facet} (fits : FacetFits schema facet)
    (reduced : ofFacet (ofTypes schema) facet labels = .ok (plan, after)) :
    ∃ portion, MadeOf schema [portion] plan := by
  obtain ⟨entry, found, rfl, rfl⟩ := ofFacet_eq_ok.mp reduced
  rw [(mem_entries_of_found found).2]
  exact ⟨_, madeOf_single (Portion.fits_ofFacet fits (labels.mint entry).1)⟩

theorem exists_portions_of_ofGroup {facets : List Facet}
    (fits : ∀ facet ∈ facets, FacetFits schema facet)
    (reduced : ofGroup (ofTypes schema) facets labels = .ok (plan, after)) :
    ∃ portions, MadeOf schema portions plan ∧ portions.length = facets.length := by
  induction facets generalizing labels plan with
  | nil =>
    obtain ⟨rfl, rfl⟩ := ofGroup_nil_eq_ok.mp reduced
    exact ⟨[], madeOf_empty, rfl⟩
  | cons facet rest ih =>
    obtain ⟨first, middle, more, head, tail, rfl⟩ := ofGroup_cons_eq_ok.mp reduced
    obtain ⟨portion, one⟩ := exists_portion_of_ofFacet (fits facet List.mem_cons_self) head
    obtain ⟨portions, others, count⟩ :=
      ih (fun other member => fits other (List.mem_cons_of_mem facet member)) tail
    exact ⟨[portion] ++ portions, one.append others, by simp [count]⟩

theorem exists_portion_of_ofRelation {id : TypeId}
    (reduced : ofRelation (ofTypes schema) id labels = .ok (plan, after)) :
    ∃ portion, MadeOf schema [portion] plan := by
  obtain ⟨entry, found, rfl, rfl⟩ := ofRelation_eq_ok.mp reduced
  obtain ⟨member, _⟩ := mem_entries_of_found found
  rw [entries_ofTypes] at member
  obtain ⟨type, declared, rfl⟩ := List.mem_map.mp member
  exact ⟨_, madeOf_single (Portion.fits_ofRelation declared _)⟩

theorem exists_portions_of_ofHops {source : Option Origin} {hops : List Hop}
    (fits : ∀ hop ∈ hops, ∀ facet ∈ hop.targets, FacetFits schema facet)
    (reduced : ofHops (ofTypes schema) source hops labels = .ok (plan, after)) :
    ∃ portions, MadeOf schema portions plan := by
  induction hops generalizing source labels plan with
  | nil =>
    obtain ⟨rfl, rfl⟩ := ofHops_nil_eq_ok.mp reduced
    exact ⟨[], madeOf_empty⟩
  | cons hop rest ih =>
    obtain ⟨relation, second, targets, third, later, related, grouped, hopped, rfl⟩ :=
      ofHops_cons_eq_ok.mp reduced
    obtain ⟨portion, one⟩ := exists_portion_of_ofRelation related
    obtain ⟨group, nodes, _⟩ := exists_portions_of_ofGroup (fits hop List.mem_cons_self) grouped
    obtain ⟨portions, others⟩ :=
      ih (fun other member => fits other (List.mem_cons_of_mem hop member)) hopped
    exact ⟨_, ((one.append nodes).append (madeOf_ofLink _ _ _)).append others⟩

/-! Readings speak of declared properties only. -/

variable {bare : BareRule} {text rest : List Char}

theorem key_declared {kind : Kind} {type : NodeType} {key : String}
    (said : Key (.ofType kind type) key text rest) : key ∈ type.properties.map (·.key) := by
  obtain ⟨property, member, rfl, _⟩ := said
  simp only [TypeEntry.ofType, List.mem_map] at member
  obtain ⟨declared, inside, rfl⟩ := member
  exact List.mem_map_of_mem inside

/-- Whichever way a condition is introduced, its property is one of the type. -/
theorem clause_key_declared {kind : Kind} {type : NodeType} {clause : Clause}
    (said : ClauseText bare (.ofType kind type) clause text rest) :
    clause.key ∈ type.properties.map (·.key) := by
  obtain ⟨_, _, _, introduction, _⟩ := said
  rcases introduction with ⟨_, key, _⟩ | ⟨_, key, _⟩ | ⟨_, key, _⟩ | ⟨single, _⟩
  · exact key_declared key
  · exact key_declared key
  · exact key_declared key
  · have keys := congrArg (List.map (·.key)) single
    simp only [TypeEntry.ofType, List.map_map, List.map_cons, List.map_nil] at keys
    change type.properties.map (·.key) = _ at keys
    simp [keys]

theorem facetFits_of_facetText {type : NodeType} (declared : type ∈ schema.types .node) {facet : Facet}
    (said : FacetText bare (.ofType .node type) facet text rest) : FacetFits schema facet := by
  obtain ⟨_, projection, _, _, clauses⟩ := said
  refine ⟨type, declared, rfl, ?_, ?_⟩
  · rintro keys rfl
    obtain ⟨_, listed, _⟩ := projection
    refine ⟨listed.ne_nil, fun key member => ?_⟩
    obtain ⟨_, _, said⟩ := listed.exists_item member
    exact key_declared said
  · intro clause member
    rcases clauses with _ | ⟨_, _, series⟩
    · cases member
    · obtain ⟨_, _, said⟩ := series.exists_item member
      exact clause_key_declared said

theorem facetFits_of_groupText {facets : List Facet}
    (said : GroupText bare (ofTypes schema) facets text rest) :
    ∀ facet ∈ facets, FacetFits schema facet := by
  obtain ⟨entry, member, series⟩ := said
  change entry ∈ (ofTypes schema).entries .node at member
  rw [entries_ofTypes] at member
  obtain ⟨type, declared, rfl⟩ := List.mem_map.mp member
  intro facet inside
  obtain ⟨_, _, said⟩ := series.exists_item inside
  exact facetFits_of_facetText declared said

theorem exists_portions_of_treeText {tree : Tree} (said : TreeText bare (ofTypes schema) tree text rest)
    (reduced : ofTree (ofTypes schema) tree labels = .ok (plan, after)) :
    ∃ portions, portions ≠ [] ∧ MadeOf schema portions plan := by
  obtain ⟨sources, middle, later, grouped, hopped, rfl⟩ := ofTree_eq_ok.mp reduced
  obtain ⟨_, spoken, hops⟩ := said
  obtain ⟨group, nodes, count⟩ := exists_portions_of_ofGroup (facetFits_of_groupText spoken) grouped
  obtain ⟨others, more⟩ := exists_portions_of_ofHops (fun hop member => by
    obtain ⟨_, _, ⟨_, _, _, _, targets⟩⟩ := hops.exists_item member
    exact facetFits_of_groupText targets) hopped
  refine ⟨group ++ others, ?_, nodes.append more⟩
  obtain ⟨_, _, series⟩ := spoken
  have some := List.length_pos_iff.mpr series.ne_nil
  exact List.ne_nil_of_length_pos (by rw [List.length_append]; omega)

/-- A plan speaks of declared types and of their properties only, its lists are in the order of its
origins, and it is empty only for a query of whitespace. -/
theorem wellTyped_of_parse {maxLength : Nat} {parser : Parser} {query : String}
    (assembled : Parser.ofSchema schema maxLength = .ok parser)
    (parsed : parser.parse query = .ok plan) :
    WellTyped schema plan ∧
      (plan.isEmpty = true ↔ ∀ c ∈ query.toList, Text.isWhitespace c = true) ∧
      (plan.isEmpty = true ↔ plan.origins = []) := by
  obtain ⟨after, run⟩ := labelled_of_parse assembled parsed
  obtain ⟨_, rfl⟩ := Parser.ofSchema_eq_ok.mp assembled
  rw [← Normalized.text_eq_nil_iff]
  obtain ⟨_, ⟨silent, rfl⟩ | ⟨spoken, found, labels, read, reduced⟩⟩ := Parser.parse_eq_ok.mp parsed
  · exact ⟨madeOf_empty.wellTyped List.nodup_nil, iff_of_true rfl silent, iff_of_true rfl rfl⟩
  · obtain ⟨portions, some, made⟩ := exists_portions_of_treeText (tree_of_read read).1 reduced
    have origins : plan.origins ≠ [] := by rw [made.origins]; simpa using some
    exact ⟨made.wellTyped run.nodup, by simp [spoken, isEmpty, origins], by simp [isEmpty, origins]⟩

theorem wellTyped_of_parse_town :
    ∃ plan, Parser.townParser.parse
        "name, age of Person with age 3 and name Ann who lives in a City that starts with 'B  '" =
          .ok plan ∧
      plan.conditions.length = 3 ∧ WellTyped Parser.townSchema plan ∧
      (plan.isEmpty = true ↔
        ∀ c ∈ "name, age of Person with age 3 and name Ann who lives in a City that starts with 'B  '".toList,
          Text.isWhitespace c = true) ∧
      (plan.isEmpty = true ↔ plan.origins = []) := by
  have parsed : ((Parser.townParser.parse
      "name, age of Person with age 3 and name Ann who lives in a City that starts with 'B  '").toOption.map
        (·.conditions.length)) = some 3 := by
    decide +kernel
  obtain ⟨plan, found, three⟩ := Option.map_eq_some_iff.mp parsed
  have parsed := Parser.eq_ok_of_toOption found
  exact ⟨plan, parsed, three, wellTyped_of_parse Parser.ofSchema_town parsed⟩

end Plan
end GraphQuery
