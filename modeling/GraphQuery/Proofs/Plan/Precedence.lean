import GraphQuery.Proofs.Plan.HopChain
import GraphQuery.Proofs.Text.Precedence

/-! Which type has precedence where several can be read.

A facet of every type is tried. The one that reads furthest tells the type of its group, and so does the first
declared of several that read equally far: every later facet of the group is read as one of that type. Hence the
origins of a group are all of the type that has precedence where the group begins. -/

set_option autoImplicit false

namespace GraphQuery

open Text Grammar Query Query.Language Query.Matcher

namespace Query
variable {grammar : Grammar} {entry : TypeEntry} {index : Nat} {id : TypeId} {facet : Facet}
  {facets : List Facet} {text rest : List Char}

/-- Of all node types, the one at `index` has precedence at the start of the text, with this facet. -/
def NodePrecedes (grammar : Grammar) (text : List Char) (index : Nat) (entry : TypeEntry) (facet : Facet)
    (rest : List Char) : Prop :=
  Precedes (fun entry => (nodeFacet grammar entry).read? text) grammar.nodeEntries index entry (facet, rest)

def RelationshipPrecedes (grammar : Grammar) (text : List Char) (index : Nat) (entry : TypeEntry)
    (id : TypeId) (rest : List Char) : Prop :=
  Precedes (fun entry => (relationshipFacet entry).read? text) grammar.relationshipEntries index entry
    (id, rest)

theorem read_anyNodeFacet_eq (grammar : Grammar) (text : List Char) :
    (anyNodeFacet grammar).read? text = longest (grammar.nodeEntries.map fun entry =>
      ((nodeFacet grammar entry).read? text).map fun found => ((entry, found.1), found.2)) := by
  rw [anyNodeFacet, read?_furthestOf, List.map_map]
  congr 1
  refine List.map_congr_left fun entry _ => ?_
  rw [Function.comp_apply, read?_bind]
  cases (nodeFacet grammar entry).read? text <;> rfl

theorem isSome_anyNodeFacet_iff : ((anyNodeFacet grammar).read? text).isSome = true ↔
    ∃ entry ∈ grammar.nodeEntries, ((nodeFacet grammar entry).read? text).isSome = true := by
  rw [read_anyNodeFacet_eq, exists_longest_iff]
  simp only [Option.isSome_map]

theorem read_anyNodeFacet_iff : (anyNodeFacet grammar).read? text = some ((entry, facet), rest) ↔
    ∃ index, NodePrecedes grammar text index entry facet rest := by
  rw [read_anyNodeFacet_eq, longest_map_eq_some]
  simp only [precedes_map (fun (entry : TypeEntry) (facet : Facet) => (entry, facet)), Prod.mk.injEq]
  constructor
  · rintro ⟨index, _, _, ⟨rfl, rfl⟩, precedes⟩
    exact ⟨index, precedes⟩
  · rintro ⟨index, precedes⟩
    exact ⟨index, entry, facet, ⟨rfl, rfl⟩, precedes⟩

theorem isSome_anyRelationshipFacet_iff : ((anyRelationshipFacet grammar).read? text).isSome = true ↔
    ∃ entry ∈ grammar.relationshipEntries, ((relationshipFacet entry).read? text).isSome = true := by
  rw [anyRelationshipFacet, read?_furthestOf, List.map_map]
  exact exists_longest_iff

theorem read_anyRelationshipFacet_iff : (anyRelationshipFacet grammar).read? text = some (id, rest) ↔
    ∃ index entry, RelationshipPrecedes grammar text index entry id rest := by
  rw [anyRelationshipFacet, read?_furthestOf, List.map_map]
  exact longest_map_eq_some

/-- The first facet decides of which type the others are. -/
theorem read_group_iff : (group grammar).read? text = some (facets, rest) ↔
    ∃ index entry first middle more, NodePrecedes grammar text index entry first middle ∧
      (joined (nodeFacet grammar entry)).many.read? middle = some (more, rest) ∧ facets = first :: more := by
  simp only [group, read?_bind_eq_some, read?_pure, Option.some.injEq, Prod.mk.injEq, Prod.exists,
    read_anyNodeFacet_iff]
  constructor
  · rintro ⟨entry, first, middle, ⟨index, precedes⟩, more, _, others, rfl, rfl⟩
    exact ⟨index, entry, first, middle, more, precedes, others, rfl⟩
  · rintro ⟨index, entry, first, middle, more, precedes, others, rfl⟩
    exact ⟨entry, first, middle, ⟨index, precedes⟩, more, rest, others, rfl, rfl⟩

theorem typeId_of_read (read : (nodeFacet grammar entry).read? text = some (facet, rest)) :
    facet.typeId = entry.id := by
  simp only [nodeFacet, read?_bind_eq_some, read?_pure, Option.some.injEq, Prod.mk.injEq] at read
  obtain ⟨_, _, _, _, _, _, _, _, _, rfl, _⟩ := read
  rfl

theorem typeId_of_relationshipFacet (read : (relationshipFacet entry).read? text = some (id, rest)) :
    id = entry.id := by
  simp only [relationshipFacet, read?_bind_eq_some, read?_pure, Option.some.injEq, Prod.mk.injEq] at read
  obtain ⟨_, _, _, _, _, _, _, _, _, _, _, _, _, _, _, rfl, _⟩ := read
  rfl

theorem typeId_of_joined (read : (joined (nodeFacet grammar entry)).many.read? text = some (facets, rest)) :
    ∀ facet ∈ facets, facet.typeId = entry.id := by
  have each : ∀ {text rest : List Char} {facet : Facet},
      (joined (nodeFacet grammar entry)).read? text = some (facet, rest) → facet.typeId = entry.id := by
    intro text rest facet read
    simp only [joined, read?_bind_eq_some] at read
    obtain ⟨_, _, _, _, _, _, _, _, _, found⟩ := read
    exact typeId_of_read found
  have repeated : Repeated (fun facet _ _ => facet.typeId = entry.id) facets text rest :=
    repeated_of_read each read
  intro facet member
  obtain ⟨_, _, same⟩ := repeated.exists_item member
  exact same

end Query

/-! The origins of a plan, group by group. -/

namespace Plan
variable {grammar : Grammar} {labels after : Labels} {plan : Plan} {text rest : List Char}

/-- These come from the group at the start of the text. All are nodes of the type that has precedence there. -/
inductive GroupOrigins (grammar : Grammar) (text rest : List Char) (origins : List Origin) : Prop where
  | mk {index : Nat} {entry : TypeEntry} {first : Facet} {middle : List Char} {more : List Facet} :
      NodePrecedes grammar text index entry first middle →
      (joined (nodeFacet grammar entry)).many.read? middle = some (more, rest) →
      origins.length = more.length + 1 →
      (∀ origin ∈ origins, origin.kind = .node ∧ origin.typeId = entry.id) →
      GroupOrigins grammar text rest origins

/-- These come from the hops that make up the text. Each is a relationship of the type that has precedence, and
then the group it leads to. -/
inductive HopOrigins (grammar : Grammar) : List Char → List Origin → Prop where
  | nil : HopOrigins grammar [] []
  | cons {text start middle behind rest : List Char} {index : Nat} {entry : TypeEntry} {relation : Origin}
      {targets later : List Origin} :
      space.read? text = some ((), start) →
      RelationshipPrecedes grammar start index entry relation.typeId middle →
      relation.kind = .relationship →
      relation.typeId = entry.id →
      space.read? middle = some ((), behind) →
      GroupOrigins grammar behind rest targets →
      HopOrigins grammar rest later →
      HopOrigins grammar text (relation :: (targets ++ later))

theorem groupOrigins_of_ofGroup {facets : List Facet} (read : (group grammar).read? text = some (facets, rest))
    (reduced : ofGroup grammar facets labels = .ok (plan, after)) :
    GroupOrigins grammar text rest plan.origins := by
  obtain ⟨index, entry, first, middle, more, precedes, others, rfl⟩ := read_group_iff.mp read
  obtain ⟨ids, nodes, _⟩ := ofGroup_origins reduced
  have size := congrArg List.length ids
  rw [List.length_map, List.length_map, List.length_cons] at size
  refine .mk precedes others size fun origin member => ⟨nodes origin member, ?_⟩
  have listed := List.mem_map_of_mem (f := (·.typeId)) member
  rw [ids] at listed
  obtain ⟨facet, inside, same⟩ := List.mem_map.mp listed
  rw [← same]
  rcases List.mem_cons.mp inside with rfl | inside
  · exact typeId_of_read precedes.reads
  · exact typeId_of_joined others facet inside

theorem hopOrigins_of_ofHops {source : Option Origin} {hops : List Hop}
    (read : (hop grammar).many.read? text = some (hops, []))
    (reduced : ofHops grammar source hops labels = .ok (plan, after)) :
    HopOrigins grammar text plan.origins := by
  induction hops generalizing text source labels plan with
  | nil =>
    obtain ⟨rfl, rfl⟩ := ofHops_nil_eq_ok.mp reduced
    obtain rfl := rest_of_read?_many_nil read
    exact .nil
  | cons first more ih =>
    obtain ⟨behind, hopped, others⟩ := exists_of_read?_many_cons read
    simp only [hop, read?_bind_eq_some, read?_pure, Option.some.injEq, Prod.mk.injEq] at hopped
    obtain ⟨_, start, gap, id, middle, related, _, begin, gap', targets, _, grouped, rfl, rfl⟩ := hopped
    obtain ⟨index, entry, precedes⟩ := read_anyRelationshipFacet_iff.mp related
    obtain ⟨relation, second, group, third, later, named, grouped', hopped', rfl⟩ :=
      ofHops_cons_eq_ok.mp reduced
    obtain ⟨known, found, rfl, rfl⟩ := ofRelation_eq_ok.mp named
    -- The entry that is looked up by the id of the hop has it.
    obtain rfl : known.id = id := (mem_entries_of_found found).2
    have origins : HopOrigins grammar text (⟨known.id, .relationship, (labels.mint known).1⟩ ::
        (group.origins ++ later.origins)) :=
      .cons gap precedes rfl (typeId_of_relationshipFacet precedes.reads) gap'
        (groupOrigins_of_ofGroup grouped grouped') (ih others hopped')
    simpa using origins

inductive QueryOrigins (grammar : Grammar) (text : List Char) : List Origin → Prop where
  | none : text = [] → QueryOrigins grammar text []
  | some {rest : List Char} {sources later : List Origin} :
      GroupOrigins grammar text rest sources → HopOrigins grammar rest later →
      QueryOrigins grammar text (sources ++ later)

theorem queryOrigins_of_parse {parser : Parser} {query : String} (parsed : parser.parse query = .ok plan) :
    QueryOrigins parser.grammar (Normalized.ofQuery query.toList).text plan.origins := by
  obtain ⟨_, ⟨empty, rfl⟩ | ⟨_, found, labels, read, reduced⟩⟩ := Parser.parse_eq_ok.mp parsed
  · exact .none empty
  · simp only [tree, read?_bind_eq_some, read?_pure, Option.some.injEq, Prod.mk.injEq] at read
    obtain ⟨sources, first, grouped, hops, second, hopped, _, _, ended, rfl, _⟩ := read
    obtain ⟨rfl, _⟩ := eq_nil_of_read ended
    obtain ⟨group, middle, later, grouped', hopped', rfl⟩ := ofTree_eq_ok.mp reduced
    exact .some (groupOrigins_of_ofGroup grouped grouped') (hopOrigins_of_ofHops hopped hopped')

/-- A type is read where there is one that can be, and then it is the one that reads furthest, or the first
declared of several that do. The type of a group is that of its first facet, and so are its origins. -/
theorem precedence_of_types (grammar : Grammar) (text : List Char) :
    (((anyNodeFacet grammar).read? text).isSome = true ↔
        ∃ entry ∈ grammar.nodeEntries, ((nodeFacet grammar entry).read? text).isSome = true) ∧
      (∀ entry facet rest, (anyNodeFacet grammar).read? text = some ((entry, facet), rest) ↔
        ∃ index, NodePrecedes grammar text index entry facet rest) ∧
      (((anyRelationshipFacet grammar).read? text).isSome = true ↔
        ∃ entry ∈ grammar.relationshipEntries, ((relationshipFacet entry).read? text).isSome = true) ∧
      (∀ id rest, (anyRelationshipFacet grammar).read? text = some (id, rest) ↔
        ∃ index entry, RelationshipPrecedes grammar text index entry id rest) ∧
      (∀ facets rest, (group grammar).read? text = some (facets, rest) ↔
        ∃ index entry first middle more, NodePrecedes grammar text index entry first middle ∧
          (joined (nodeFacet grammar entry)).many.read? middle = some (more, rest) ∧
            facets = first :: more) ∧
      ∀ maxLength query plan, Parser.parse ⟨grammar, maxLength⟩ query = .ok plan →
        QueryOrigins grammar (Normalized.ofQuery query.toList).text plan.origins :=
  ⟨isSome_anyNodeFacet_iff, fun _ _ _ => read_anyNodeFacet_iff, isSome_anyRelationshipFacet_iff,
    fun _ _ => read_anyRelationshipFacet_iff, fun _ _ => read_group_iff,
    fun _ _ _ parsed => queryOrigins_of_parse parsed⟩

/-- The first and the last type have forms in common, and the second begins with them. -/
def clubSchema : Schema where
  nodeTypes := [{ id := 1, name := "Club" }, { id := 2, name := "Club member" }, { id := 3, name := "club" }]

theorem precedence_of_types_club :
    ∃ plan, Parser.parse ⟨.ofTypes clubSchema, 100⟩ "Club members or Club member" = .ok plan ∧
      plan.origins.map (·.typeId) = [2, 2] ∧
        QueryOrigins (.ofTypes clubSchema) "Club members or Club member".toList plan.origins := by
  have found : ((Parser.parse ⟨.ofTypes clubSchema, 100⟩ "Club members or Club member").toOption.map
      fun plan => plan.origins.map (·.typeId)) = some [2, 2] := by
    decide +kernel
  obtain ⟨plan, parsed, second⟩ := Option.map_eq_some_iff.mp found
  have parsed := Parser.eq_ok_of_toOption parsed
  have origins := (precedence_of_types (.ofTypes clubSchema) []).2.2.2.2.2 100 _ plan parsed
  rw [show (Normalized.ofQuery "Club members or Club member".toList).text =
    "Club members or Club member".toList by decide +kernel] at origins
  exact ⟨plan, parsed, second, origins⟩

/-- The first type and the last read equally far. -/
example : (((anyNodeFacet (.ofTypes clubSchema)).read? "club".toList).map fun reading =>
    (reading.1.1.id, reading.2)) = some (1, []) := by
  decide +kernel

end Plan
end GraphQuery
