import GraphQuery.Proofs.Outcomes
import GraphQuery.Proofs.Plan.Labels
import GraphQuery.Proofs.Query.Renaming
import Mathlib.Data.List.Find
import Mathlib.Data.Set.Function

/-! Ids only name types.

Under other ids a schema has the same grammar but for the ids, and a query the same tree but for the ids.
So it has the same plan with the new ids in its origins and labels, or fails in the same way. -/

set_option autoImplicit false

namespace GraphQuery

open Text Grammar Query

variable {ids : Kind → TypeId → TypeId}

/-! Labels under other ids. -/

def labelParts? (label : String) : Option (Kind × TypeId × Nat) :=
  match label.toList with
  | [] => none
  | letter :: rest => do
    let kind ←
      if letter = 'n' then some Kind.node
      else if letter = 'r' then some Kind.relationship
      else none
    let id ← readNat? (rest.takeWhile (· != '_'))
    let ordinal ← readNat? (rest.dropWhile (· != '_')).tail
    pure (kind, id.toUInt64, ordinal)

/-- The label with the id in it replaced. A text that is no label stays as it is. -/
def relabel (ids : Kind → TypeId → TypeId) (label : String) : String :=
  match labelParts? label with
  | some (kind, id, ordinal) => labelText kind (ids kind id) ordinal
  | none => label

theorem labelParts_labelText (kind : Kind) (id : TypeId) (ordinal : Nat) :
    labelParts? (labelText kind id ordinal) = some (kind, id, ordinal) := by
  have ahead : ∀ c ∈ Nat.toDigits 10 id.toNat, (c != '_') = true := fun c member =>
    bne_iff_ne.mpr fun same => Nat.underscore_not_in_toDigits (same ▸ member)
  unfold labelParts?
  rw [toList_labelText]
  cases kind <;>
    simp [List.takeWhile_append_of_pos ahead, List.dropWhile_append_of_pos ahead, readNat_toDigits]

@[simp] theorem relabel_labelText (ids : Kind → TypeId → TypeId) (kind : Kind) (id : TypeId)
    (ordinal : Nat) : relabel ids (labelText kind id ordinal) = labelText kind (ids kind id) ordinal := by
  simp only [relabel, labelParts_labelText]

/-! Plans under other ids. -/

def Origin.renumber (ids : Kind → TypeId → TypeId) (origin : Origin) : Origin where
  typeId := ids origin.kind origin.typeId
  kind := origin.kind
  label := relabel ids origin.label

def Condition.renumber (ids : Kind → TypeId → TypeId) (condition : Condition) : Condition :=
  { condition with label := relabel ids condition.label }

def Pattern.renumber (ids : Kind → TypeId → TypeId) (pattern : Pattern) : Pattern where
  source := pattern.source.renumber ids
  target := pattern.target.renumber ids
  relation := pattern.relation.renumber ids

def Selection.renumber (ids : Kind → TypeId → TypeId) (selection : Selection) : Selection :=
  { selection with label := relabel ids selection.label }

def Plan.renumber (ids : Kind → TypeId → TypeId) (plan : Plan) : Plan where
  conditions := plan.conditions.map (·.renumber ids)
  origins := plan.origins.map (·.renumber ids)
  patterns := plan.patterns.map (·.renumber ids)
  results := plan.results.map (·.renumber ids)

namespace Plan

@[simp] theorem renumber_append (first second : Plan) :
    (first ++ second).renumber ids = first.renumber ids ++ second.renumber ids := by
  show Plan.mk _ _ _ _ = Plan.mk _ _ _ _
  simp [renumber]

theorem lastOrigin_renumber (plan : Plan) :
    (plan.renumber ids).lastOrigin? = plan.lastOrigin?.map (·.renumber ids) :=
  List.getLast?_map

theorem renumber_ofLink (source relation target : Option Origin) :
    (ofLink source relation target).renumber ids =
      ofLink (source.map (·.renumber ids)) (relation.map (·.renumber ids))
        (target.map (·.renumber ids)) := by
  cases source <;> cases relation <;> cases target <;> rfl

end Plan

/-! Grammars under other ids. -/

namespace Grammar
variable {grammar : Grammar}

def TypeEntry.renumber (change : TypeId → TypeId) (entry : TypeEntry) : TypeEntry :=
  entry.rename change fun name => name

def renumber (ids : Kind → TypeId → TypeId) (grammar : Grammar) : Grammar :=
  grammar.rename ids fun name => name

def typeIds (grammar : Grammar) (kind : Kind) : Set TypeId :=
  {id | ∃ entry ∈ grammar.entries kind, entry.id = id}

theorem mem_typeIds_of_found {kind : Kind} {id : TypeId} {entry : TypeEntry}
    (found : grammar.entry? kind id = some entry) : id ∈ grammar.typeIds kind :=
  ⟨entry, mem_entries_of_found found⟩

theorem entries_renumber (ids : Kind → TypeId → TypeId) (grammar : Grammar) (kind : Kind) :
    (grammar.renumber ids).entries kind = (grammar.entries kind).map (·.renumber (ids kind)) := by
  cases kind <;> rfl

theorem entry_renumber (apart : ∀ kind, Set.InjOn (ids kind) (grammar.typeIds kind)) {kind : Kind}
    {id : TypeId} {entry : TypeEntry} (found : grammar.entry? kind id = some entry) :
    Grammar.entry? (grammar.renumber ids) kind (ids kind id) = some (entry.renumber (ids kind)) := by
  have same : (grammar.entries kind).find? (fun other => ids kind other.id == ids kind id) =
      (grammar.entries kind).find? (·.id == id) := by
    refine List.find?_congr fun other member => ?_
    rw [Bool.eq_iff_iff, beq_iff_eq, beq_iff_eq]
    exact (apart kind).eq_iff ⟨other, member, rfl⟩ (mem_typeIds_of_found found)
  rw [Grammar.entry?, entries_renumber, List.find?_map]
  show ((grammar.entries kind).find? fun other => ids kind other.id == ids kind id).map _ = _
  rw [same, show (grammar.entries kind).find? (·.id == id) = some entry from found, Option.map_some]

end Grammar

/-! Reduction under other ids. -/

namespace Plan
variable {grammar : Grammar} {labels other after : Labels} {plan : Plan}

/-- As many labels have been given to each type as in the other run to the type with the new id. -/
def InStep (ids : Kind → TypeId → TypeId) (grammar : Grammar) (labels other : Labels) : Prop :=
  ∀ kind, ∀ id ∈ grammar.typeIds kind, other.used kind (ids kind id) = labels.used kind id

section
variable (apart : ∀ kind, Set.InjOn (ids kind) (grammar.typeIds kind)) (agree : KindsAgree grammar)
include apart agree

theorem InStep.mint (step : InStep ids grammar labels other) {kind : Kind} {id : TypeId}
    {entry : TypeEntry} (found : grammar.entry? kind id = some entry) :
    (other.mint (entry.renumber (ids kind))).1 = relabel ids (labels.mint entry).1 ∧
      InStep ids grammar (labels.mint entry).2 (other.mint (entry.renumber (ids kind))).2 := by
  have kinds : entry.kind = kind := agree found
  have known : entry.id ∈ grammar.typeIds kind := ⟨entry, (mem_entries_of_found found).1, rfl⟩
  subst kinds
  constructor
  · rw [mint_label, mint_label, relabel_labelText]
    exact congrArg (labelText entry.kind (ids entry.kind entry.id)) (step _ _ known)
  · intro kind id member
    by_cases same : entry.kind = kind ∧ entry.id = id
    · obtain ⟨rfl, rfl⟩ := same
      rw [used_mint_self, ← step _ _ known]
      exact used_mint_self other (entry.renumber (ids entry.kind))
    · rw [used_mint_of_ne same, ← step kind id member]
      -- Two types under one new id would share a counter.
      refine used_mint_of_ne fun both => same ⟨both.1, ?_⟩
      obtain ⟨rfl, ids⟩ := both
      exact apart _ known member ids

theorem ofFacet_renumber (step : InStep ids grammar labels other) {facet : Facet}
    (reduced : ofFacet grammar facet labels = .ok (plan, after)) :
    ∃ after', ofFacet (grammar.renumber ids) (facet.renumber ids) other =
        .ok (plan.renumber ids, after') ∧ InStep ids grammar after after' := by
  obtain ⟨entry, found, rfl, rfl⟩ := ofFacet_eq_ok.mp reduced
  obtain ⟨label, later⟩ := step.mint apart agree found
  refine ⟨_, ofFacet_eq_ok.mpr ⟨_, entry_renumber apart found, ?_, rfl⟩, later⟩
  rw [label]
  simp [renumber, Condition.renumber, Origin.renumber, Selection.renumber, TypeEntry.renumber,
    TypeEntry.rename, Facet.renumber]

theorem ofGroup_renumber (step : InStep ids grammar labels other) {facets : List Facet}
    (reduced : ofGroup grammar facets labels = .ok (plan, after)) :
    ∃ after', ofGroup (grammar.renumber ids) (facets.map (·.renumber ids)) other =
        .ok (plan.renumber ids, after') ∧ InStep ids grammar after after' := by
  induction facets generalizing labels other plan with
  | nil =>
    obtain ⟨rfl, rfl⟩ := ofGroup_nil_eq_ok.mp reduced
    exact ⟨other, rfl, step⟩
  | cons facet rest ih =>
    obtain ⟨first, middle, more, head, tail, rfl⟩ := ofGroup_cons_eq_ok.mp reduced
    obtain ⟨middle', head', step'⟩ := ofFacet_renumber apart agree step head
    obtain ⟨after', tail', later⟩ := ih step' tail
    exact ⟨after', ofGroup_cons_eq_ok.mpr ⟨_, middle', _, head', tail', renumber_append first more⟩,
      later⟩

theorem ofRelation_renumber (step : InStep ids grammar labels other) {id : TypeId}
    (reduced : ofRelation grammar id labels = .ok (plan, after)) :
    ∃ after', ofRelation (grammar.renumber ids) (ids .relationship id) other =
        .ok (plan.renumber ids, after') ∧ InStep ids grammar after after' := by
  obtain ⟨entry, found, rfl, rfl⟩ := ofRelation_eq_ok.mp reduced
  obtain ⟨label, later⟩ := step.mint apart agree found
  refine ⟨_, ofRelation_eq_ok.mpr ⟨_, entry_renumber apart found, ?_, rfl⟩, later⟩
  rw [label]
  simp [renumber, Origin.renumber, Selection.renumber, TypeEntry.renumber, TypeEntry.rename]

theorem ofHops_renumber (step : InStep ids grammar labels other) {source : Option Origin}
    {hops : List Hop} (reduced : ofHops grammar source hops labels = .ok (plan, after)) :
    ∃ after', ofHops (grammar.renumber ids) (source.map (·.renumber ids)) (hops.map (·.renumber ids))
        other = .ok (plan.renumber ids, after') ∧ InStep ids grammar after after' := by
  induction hops generalizing labels other source plan with
  | nil =>
    obtain ⟨rfl, rfl⟩ := ofHops_nil_eq_ok.mp reduced
    exact ⟨other, rfl, step⟩
  | cons hop rest ih =>
    obtain ⟨relation, second, targets, third, later, related, grouped, hopped, rfl⟩ :=
      ofHops_cons_eq_ok.mp reduced
    obtain ⟨second', related', step'⟩ := ofRelation_renumber apart agree step related
    obtain ⟨third', grouped', step''⟩ := ofGroup_renumber apart agree step' grouped
    obtain ⟨after', hopped', inStep⟩ := ih step'' hopped
    rw [← lastOrigin_renumber] at hopped'
    refine ⟨after', ofHops_cons_eq_ok.mpr
      ⟨_, second', _, third', _, related', grouped', hopped', ?_⟩, inStep⟩
    simp only [renumber_append, renumber_ofLink, lastOrigin_renumber]

theorem ofTree_renumber (step : InStep ids grammar labels other) {tree : Tree}
    (reduced : ofTree grammar tree labels = .ok (plan, after)) :
    ∃ after', ofTree (grammar.renumber ids) (tree.renumber ids) other =
        .ok (plan.renumber ids, after') := by
  obtain ⟨sources, middle, later, grouped, hopped, rfl⟩ := ofTree_eq_ok.mp reduced
  obtain ⟨middle', grouped', step'⟩ := ofGroup_renumber apart agree step grouped
  obtain ⟨after', hopped', _⟩ := ofHops_renumber apart agree step' hopped
  rw [← lastOrigin_renumber] at hopped'
  exact ⟨after', ofTree_eq_ok.mpr ⟨_, middle', _, grouped', hopped', renumber_append sources later⟩⟩

end
end Plan

/-! Schemas under other ids. -/

namespace Schema
variable {schema : Schema}

def renumber (ids : Kind → TypeId → TypeId) (schema : Schema) : Schema where
  nodeTypes := schema.nodeTypes.map fun type => { type with id := ids .node type.id }
  relationshipTypes := schema.relationshipTypes.map fun type =>
    { type with
      id := ids .relationship type.id
      source := ids .node type.source
      target := ids .node type.target }

def typeIds (schema : Schema) (kind : Kind) : Set TypeId :=
  {id | ∃ type ∈ schema.types kind, type.id = id}

theorem typeIds_ofTypes (schema : Schema) (kind : Kind) :
    (ofTypes schema).typeIds kind = schema.typeIds kind := by
  ext id
  simp [Grammar.typeIds, typeIds, TypeEntry.ofType]

theorem ofTypes_renumber (ids : Kind → TypeId → TypeId) (schema : Schema) :
    ofTypes (schema.renumber ids) = (ofTypes schema).renumber ids := by
  simp only [ofTypes, renumber, Grammar.renumber, Grammar.rename, List.map_map]
  rfl

theorem map_id_renumber (ids : Kind → TypeId → TypeId) (schema : Schema) (kind : Kind) :
    ((schema.renumber ids).types kind).map (·.id) = ((schema.types kind).map (·.id)).map (ids kind) := by
  cases kind <;> simp [renumber, types, Function.comp_def]

theorem checkWords_renumber {kind : Kind} {type : NodeType} {id : TypeId}
    (checked : checkWords kind type = .ok ()) : checkWords kind { type with id } = .ok () := by
  rw [checkWords_eq_ok] at checked ⊢
  exact checked

theorem validate_renumber (valid : schema.validate = .ok ())
    (apart : ∀ kind, Set.InjOn (ids kind) (schema.typeIds kind)) :
    (schema.renumber ids).validate = .ok () := by
  obtain ⟨nodes, relationships⟩ := validate_eq_ok.mp valid
  obtain ⟨_, nodeWords⟩ := checkNodeTypes_eq_ok.mp nodes
  obtain ⟨_, relationshipWords⟩ := checkRelationshipTypes_eq_ok.mp relationships
  have distinct : ∀ kind, (((schema.renumber ids).types kind).map (·.id)).Nodup := by
    intro kind
    rw [map_id_renumber]
    refine (nodup_ids_of_validate valid kind).map_on fun first member second member' same => ?_
    exact apart kind (List.mem_map.mp member) (List.mem_map.mp member') same
  have endpoint : ∀ {id}, id ∈ schema.nodeTypes.map (·.id) →
      ids .node id ∈ (schema.renumber ids).nodeTypes.map (·.id) := by
    intro id member
    rw [show (schema.renumber ids).nodeTypes.map (·.id) = _ from map_id_renumber ids schema .node]
    exact List.mem_map_of_mem member
  -- No other check looks at an id.
  refine validate_eq_ok.mpr ⟨checkNodeTypes_eq_ok.mpr ⟨⟨by simp, distinct .node⟩, ?_⟩,
    checkRelationshipTypes_eq_ok.mpr ⟨⟨by simp, ?_⟩, ?_⟩⟩
  · exact List.forall_mem_map.mpr fun type member => checkWords_renumber (nodeWords type member)
  · simpa [types, Function.comp_def] using distinct .relationship
  · refine List.forall_mem_map.mpr fun type member => ?_
    obtain ⟨words, source, target⟩ := relationshipWords type member
    exact ⟨checkWords_renumber words, endpoint source, endpoint target⟩

end Schema

namespace Parser

variable {schema : Schema} {maxLength : Nat} {parser : Parser}

theorem furthest_renumber (ids : Kind → TypeId → TypeId) (grammar : Grammar) (text : List Char) :
    furthest ⟨grammar.renumber ids, maxLength⟩ text = furthest ⟨grammar, maxLength⟩ text := by
  have same := Event.eq_of_renamed_id (renamed_tree ids id grammar text).log
  exact congrArg (Furthest.ofLog text) same.symm

theorem read_tree_renumber (ids : Kind → TypeId → TypeId) (grammar : Grammar) (text : List Char) :
    (tree (grammar.renumber ids)).read? text =
      ((tree grammar).read? text).map (Prod.map (·.renumber ids) id) :=
  (renamed_tree ids id grammar).read text

/-- Under other ids a schema is still valid, and every query has the same plan but for the ids, or fails
in the same way. -/
theorem parse_of_renumbered {ids : Kind → TypeId → TypeId}
    (assembled : ofSchema schema maxLength = .ok parser)
    (apart : ∀ kind, Set.InjOn (ids kind) (schema.typeIds kind)) :
    ∃ other, ofSchema (schema.renumber ids) maxLength = .ok other ∧
      ∀ query, other.parse query = (parser.parse query).map (·.renumber ids) := by
  obtain ⟨valid, rfl⟩ := ofSchema_eq_ok.mp assembled
  refine ⟨_, ofSchema_eq_ok.mpr ⟨Schema.validate_renumber valid apart, rfl⟩, fun query => ?_⟩
  rw [Schema.ofTypes_renumber]
  simp only [← Schema.typeIds_ofTypes] at apart
  have answer := parse_cases ⟨ofTypes schema, maxLength⟩ query
  have answer' := parse_cases ⟨(ofTypes schema).renumber ids, maxLength⟩ query
  split at answer
  · next long =>
    rw [if_pos long] at answer'
    rw [answer, answer']
    rfl
  · obtain ⟨plan, parsed⟩ | ⟨message, column, expected, refused⟩ := answer
    · rw [parsed]
      refine parse_eq_ok.mpr ?_
      obtain ⟨fits, ⟨empty, rfl⟩ | ⟨spoken, found, labels, read, reduced⟩⟩ := parse_eq_ok.mp parsed
      · exact ⟨fits, .inl ⟨empty, rfl⟩⟩
      · have fresh : Plan.InStep ids (ofTypes schema) .fresh .fresh := fun _ _ _ => rfl
        obtain ⟨after, reduced'⟩ :=
          Plan.ofTree_renumber apart (Plan.kindsAgree_ofTypes schema) fresh reduced
        refine ⟨fits, .inr ⟨spoken, found.renumber ids, after, ?_, reduced'⟩⟩
        rw [read_tree_renumber, read]
        rfl
    · rw [refused]
      obtain ⟨fits, spoken, unread, failure⟩ := parse_eq_mismatch.mp refused
      refine parse_eq_mismatch.mpr ⟨fits, spoken, ?_, ?_⟩
      · rw [read_tree_renumber, unread]
        rfl
      · rw [furthest_renumber, failure]

def townIds : Kind → TypeId → TypeId
  | .node => fun id => id + 6
  | .relationship => fun id => 3 - id

theorem parse_of_renumbered_town :
    ofSchema townSchema defaultMaxLength = .ok townParser ∧
      (∀ kind, Set.InjOn (townIds kind) (townSchema.typeIds kind)) ∧
      (townParser.parse "Person who lives in a City").toOption.map
          (fun plan => (plan.renumber townIds).origins.map (·.label)) =
        some ["n7_0", "r1_0", "n8_0"] ∧
      ∃ other, ofSchema (townSchema.renumber townIds) defaultMaxLength = .ok other ∧
        ∀ query, other.parse query = (townParser.parse query).map (·.renumber townIds) := by
  have apart : ∀ kind, ∀ type ∈ townSchema.types kind, ∀ type' ∈ townSchema.types kind,
      townIds kind type.id = townIds kind type'.id → type.id = type'.id := by
    intro kind
    cases kind <;> decide
  have distinct : ∀ kind, Set.InjOn (townIds kind) (townSchema.typeIds kind) := by
    rintro kind _ ⟨type, member, rfl⟩ _ ⟨type', member', rfl⟩ same
    exact apart kind type member type' member' same
  exact ⟨ofSchema_town, distinct, by decide +kernel, parse_of_renumbered ofSchema_town distinct⟩

end Parser
end GraphQuery
