import GraphQuery.Proofs.Parsing
import Mathlib.Data.List.Chain
import Mathlib.Tactic.Tauto

/-! The patterns of a plan form a chain along its origins.

The origins of a plan are groups of nodes with one relationship between each two groups. Every
relationship gives one pattern, from the last node before it to the last node of the group behind
it. -/

set_option autoImplicit false

namespace GraphQuery.Plan

open Grammar Query Query.Language

def lastNode? (origins : List Origin) : Option Origin :=
  (origins.filter (·.kind = .node)).getLast?

def relationships (origins : List Origin) : List Origin :=
  origins.filter (·.kind = .relationship)

def leadingNodes (origins : List Origin) : List Origin :=
  origins.takeWhile (·.kind = .node)

structure HopChain (plan : Plan) : Prop where
  /-- No relationship goes without its pattern. -/
  count : plan.patterns.length = (relationships plan.origins).length
  /-- The pattern at `index` belongs to the relationship at `index`. It leads from the last node
  before that relationship to the last node before the next one, or before the end. -/
  link : ∀ index pattern, plan.patterns[index]? = some pattern →
    ∃ earlier later, plan.origins = earlier ++ pattern.relation :: later ∧
      pattern.relation.kind = .relationship ∧ (relationships earlier).length = index ∧
      lastNode? earlier = some pattern.source ∧
      lastNode? (earlier ++ pattern.relation :: leadingNodes later) = some pattern.target
  joined : plan.patterns.IsChain fun first second => first.target = second.source
  head : ∀ origin, plan.origins.head? = some origin → origin.kind = .node
  last : ∀ origin, plan.origins.getLast? = some origin → origin.kind = .node
  apart : plan.origins.IsChain fun first second =>
    ¬(first.kind = .relationship ∧ second.kind = .relationship)
  /-- Nodes with no relationship between them are of one type. -/
  uniform : ∀ earlier run later, plan.origins = earlier ++ run ++ later →
    (∀ origin ∈ run, origin.kind = .node) →
    ∀ first ∈ run, ∀ second ∈ run, first.typeId = second.typeId
  members : ∀ pattern ∈ plan.patterns,
    pattern.source ∈ plan.origins ∧ pattern.target ∈ plan.origins ∧ pattern.relation ∈ plan.origins

structure IsGroup (origins : List Origin) (last : Origin) : Prop where
  last : origins.getLast? = some last
  nodes : ∀ origin ∈ origins, origin.kind = .node
  uniform : ∀ first ∈ origins, ∀ second ∈ origins, first.typeId = second.typeId

/-- The origins and patterns of hops that start from a group whose last node is given. -/
inductive Links : Origin → List Origin → List Pattern → Prop where
  | nil {source : Origin} : Links source [] []
  | cons {source relation target : Origin} {group origins : List Origin} {patterns : List Pattern} :
      relation.kind = .relationship → IsGroup group target → Links target origins patterns →
      Links source (relation :: (group ++ origins)) (⟨source, target, relation⟩ :: patterns)

/-! What holds of any links holds behind a group from which they start. -/

/-- Two origins that may stand side by side. -/
def Adjacent (first second : Origin) : Prop :=
  ¬(first.kind = .relationship ∧ second.kind = .relationship) ∧
    (first.kind = .node → second.kind = .node → first.typeId = second.typeId)

section
variable {source target : Origin} {group origins : List Origin} {patterns : List Pattern}

theorem IsGroup.mem (isGroup : IsGroup group source) : source ∈ group :=
  List.mem_of_getLast? isGroup.last

theorem IsGroup.filter_node (isGroup : IsGroup group source) :
    group.filter (·.kind = .node) = group :=
  List.filter_eq_self.mpr fun origin member => by simpa using isGroup.nodes origin member

theorem IsGroup.relationships_eq_nil (isGroup : IsGroup group source) : relationships group = [] :=
  List.filter_eq_nil_iff.mpr fun origin member => by simp [isGroup.nodes origin member]

theorem IsGroup.isChain (isGroup : IsGroup group source) : group.IsChain Adjacent := by
  apply List.Pairwise.isChain
  apply List.pairwise_of_forall_mem_list
  intro first firstIn second secondIn
  refine ⟨fun both => ?_, fun _ _ => isGroup.uniform first firstIn second secondIn⟩
  rw [isGroup.nodes first firstIn] at both
  cases both.1

theorem lastNode?_append (isGroup : IsGroup group target) (earlier : List Origin) :
    lastNode? (earlier ++ group) = some target := by
  rw [lastNode?, List.filter_append, isGroup.filter_node, List.getLast?_append, isGroup.last]
  rfl

theorem Links.leadingNodes_append (links : Links source origins patterns)
    (isGroup : IsGroup group source) : leadingNodes (group ++ origins) = group := by
  rw [leadingNodes, List.takeWhile_append_of_pos fun origin member => by
    simpa using isGroup.nodes origin member]
  cases links with
  | nil => rw [List.takeWhile_nil, List.append_nil]
  | cons kind _ _ =>
    rw [List.takeWhile_cons_of_neg (by simp [kind]), List.append_nil]

theorem Links.count (links : Links source origins patterns) :
    patterns.length = (relationships origins).length := by
  induction links with
  | nil => rfl
  | @cons source relation target group origins patterns kind isGroup _ ih =>
    rw [relationships, List.filter_cons_of_pos (by simpa using kind), List.filter_append,
      ← relationships, ← relationships, isGroup.relationships_eq_nil, List.nil_append,
      List.length_cons, List.length_cons, ih]

theorem Links.isChain (links : Links source origins patterns) (isGroup : IsGroup group source) :
    (group ++ origins).IsChain Adjacent := by
  induction links generalizing group with
  | nil => simpa using isGroup.isChain
  | @cons source relation target next origins patterns kind nextGroup _ ih =>
    -- The relationship stands between two nodes: the last one before it, and the first one of `next`.
    refine List.isChain_append.mpr ⟨isGroup.isChain, List.isChain_cons.mpr ⟨?_, ih nextGroup⟩, ?_⟩
    · intro second member
      have nonempty := List.ne_nil_of_mem nextGroup.mem
      rw [List.head?_append_of_ne_nil _ nonempty] at member
      have node := nextGroup.nodes second (List.mem_of_head? member)
      exact ⟨fun both => by simp [node] at both, fun impossible => by simp [kind] at impossible⟩
    · intro first member second same
      cases same
      have node := isGroup.nodes first (List.mem_of_getLast? member)
      exact ⟨fun both => by simp [node] at both, fun _ impossible => by simp [kind] at impossible⟩

theorem Links.last (links : Links source origins patterns) (isGroup : IsGroup group source) :
    ∀ origin, (group ++ origins).getLast? = some origin → origin.kind = .node := by
  induction links generalizing group with
  | nil =>
    intro origin last
    rw [List.append_nil] at last
    exact isGroup.nodes origin (List.mem_of_getLast? last)
  | @cons source relation target next origins patterns kind nextGroup _ ih =>
    intro origin last
    apply ih nextGroup
    have nonempty : next ++ origins ≠ [] := by simp [List.ne_nil_of_mem nextGroup.mem]
    rwa [List.getLast?_append_cons, List.getLast?_cons_of_ne_nil nonempty] at last

theorem Links.joined (links : Links source origins patterns) :
    (patterns.IsChain fun first second => first.target = second.source) ∧
      ∀ pattern ∈ patterns.head?, pattern.source = source := by
  induction links with
  | nil => exact ⟨.nil, fun _ member => by cases member⟩
  | cons _ _ _ ih =>
    refine ⟨List.isChain_cons.mpr ⟨fun pattern member => (ih.2 pattern member).symm, ih.1⟩, ?_⟩
    intro pattern member
    cases member
    rfl

theorem Links.members (links : Links source origins patterns) (isGroup : IsGroup group source) :
    ∀ pattern ∈ patterns, pattern.source ∈ group ++ origins ∧
      pattern.target ∈ group ++ origins ∧ pattern.relation ∈ group ++ origins := by
  induction links generalizing group with
  | nil => intro pattern member; cases member
  | @cons source relation target next origins patterns _ nextGroup _ ih =>
    intro pattern member
    rcases List.mem_cons.mp member with rfl | member
    · simp [isGroup.mem, nextGroup.mem]
    · have later := ih nextGroup pattern member
      simp only [List.mem_append, List.mem_cons] at later ⊢
      tauto

theorem Links.link (links : Links source origins patterns) {before : List Origin}
    (isLast : lastNode? before = some source) :
    ∀ index pattern, patterns[index]? = some pattern →
      ∃ earlier later, before ++ origins = earlier ++ pattern.relation :: later ∧
        pattern.relation.kind = .relationship ∧
        (relationships earlier).length = (relationships before).length + index ∧
        lastNode? earlier = some pattern.source ∧
        lastNode? (earlier ++ pattern.relation :: leadingNodes later) = some pattern.target := by
  -- On the links, each time with all origins before them.
  induction links generalizing before with
  | nil => intro index pattern selected; cases selected
  | @cons source relation target group origins patterns kind isGroup links ih =>
    intro index pattern selected
    cases index with
    | zero =>
      cases selected
      -- Behind the relationship only the nodes of `group` come before the next relationship.
      refine ⟨before, group ++ origins, rfl, kind, rfl, isLast, ?_⟩
      rw [links.leadingNodes_append isGroup, List.append_cons]
      exact lastNode?_append isGroup _
    | succ index =>
      have passed : lastNode? (before ++ relation :: group) = some target := by
        rw [List.append_cons]
        exact lastNode?_append isGroup _
      obtain ⟨earlier, later, split, isRelation, position, sources, targets⟩ :=
        ih passed index pattern selected
      refine ⟨earlier, later, ?_, isRelation, ?_, sources, targets⟩
      · simpa only [List.append_assoc, List.cons_append] using split
      · have one : (relationships (before ++ relation :: group)).length =
            (relationships before).length + 1 := by
          rw [relationships, List.filter_append, List.filter_cons_of_pos (by simpa using kind),
            ← relationships, ← relationships, isGroup.relationships_eq_nil, List.length_append,
            List.length_singleton]
        omega

end

theorem uniform_of_isChain {run : List Origin} (chain : run.IsChain Adjacent)
    (nodes : ∀ origin ∈ run, origin.kind = .node) :
    ∀ first ∈ run, ∀ second ∈ run, first.typeId = second.typeId := by
  -- Nodes side by side share their type, so the whole run does.
  have same : (run.map (·.typeId)).IsChain Eq := by
    rw [List.isChain_map]
    exact chain.imp_of_mem_imp fun first second firstIn secondIn adjacent =>
      adjacent.2 (nodes first firstIn) (nodes second secondIn)
  cases run with
  | nil => intro first member; cases member
  | cons head rest =>
    have copies := List.isChain_cons_eq_iff_eq_replicate.mp same
    have ids : ∀ origin ∈ head :: rest, origin.typeId = head.typeId := by
      intro origin member
      rcases List.mem_cons.mp member with rfl | member
      · rfl
      · have listed := List.mem_map_of_mem (f := (·.typeId)) member
        rw [copies] at listed
        exact List.eq_of_mem_replicate listed
    intro first firstIn second secondIn
    rw [ids first firstIn, ids second secondIn]

theorem Links.hopChain {source : Origin} {group origins : List Origin} {plan : Plan}
    (links : Links source origins plan.patterns) (isGroup : IsGroup group source)
    (whole : plan.origins = group ++ origins) : HopChain plan where
  count := by
    rw [whole, relationships, List.filter_append, ← relationships, ← relationships,
      isGroup.relationships_eq_nil, List.nil_append]
    exact links.count
  link index pattern selected := by
    have isLast : lastNode? group = some source := lastNode?_append isGroup []
    obtain ⟨earlier, later, split, kind, position, ends⟩ := links.link isLast index pattern selected
    rw [isGroup.relationships_eq_nil, List.length_nil, Nat.zero_add] at position
    exact ⟨earlier, later, whole.trans split, kind, position, ends⟩
  joined := links.joined.1
  head origin first := by
    rw [whole, List.head?_append_of_ne_nil _ (List.ne_nil_of_mem isGroup.mem)] at first
    exact isGroup.nodes origin (List.mem_of_head? first)
  last origin final := links.last isGroup origin (whole ▸ final)
  apart := by
    rw [whole]
    exact (links.isChain isGroup).imp fun _ _ adjacent => adjacent.1
  uniform earlier run later split nodes := by
    have chain := links.isChain isGroup
    rw [← whole, split] at chain
    exact uniform_of_isChain chain.left_of_append.right_of_append nodes
  members pattern member := whole ▸ links.members isGroup pattern member

theorem hopChain_empty : HopChain ∅ where
  count := rfl
  link index pattern selected := by cases selected
  joined := .nil
  head origin first := by cases first
  last origin final := by cases final
  apart := .nil
  uniform earlier run later split _ first member := by
    have none : earlier ++ run ++ later = [] := split.symm
    simp only [List.append_eq_nil_iff] at none
    rw [none.1.2] at member
    cases member
  members pattern member := by cases member

/-! The parts of a plan. -/

variable {grammar : Grammar} {labels after : Labels} {plan : Plan}

theorem ofGroup_origins {facets : List Facet}
    (reduced : ofGroup grammar facets labels = .ok (plan, after)) :
    plan.origins.map (·.typeId) = facets.map (·.typeId) ∧
      (∀ origin ∈ plan.origins, origin.kind = .node) ∧ plan.patterns = [] := by
  induction facets generalizing labels plan with
  | nil =>
    obtain ⟨rfl, rfl⟩ := ofGroup_nil_eq_ok.mp reduced
    exact ⟨rfl, fun origin member => by (cases member), rfl⟩
  | cons facet rest ih =>
    obtain ⟨first, middle, more, head, tail, rfl⟩ := ofGroup_cons_eq_ok.mp reduced
    obtain ⟨entry, found, rfl, rfl⟩ := ofFacet_eq_ok.mp head
    obtain ⟨ids, nodes, patterns⟩ := ih tail
    refine ⟨?_, fun origin member => ?_, patterns⟩
    · simp [ids, (mem_entries_of_found found).2]
    · rcases List.mem_cons.mp member with rfl | member
      · rfl
      · exact nodes origin member

def IsFacetGroup (facets : List Facet) : Prop :=
  facets ≠ [] ∧ ∃ id, ∀ facet ∈ facets, facet.typeId = id

theorem isGroup_of_ofGroup {facets : List Facet} (group : IsFacetGroup facets)
    (reduced : ofGroup grammar facets labels = .ok (plan, after)) :
    ∃ last, IsGroup plan.origins last ∧ plan.patterns = [] := by
  obtain ⟨ids, nodes, patterns⟩ := ofGroup_origins reduced
  obtain ⟨nonempty, id, same⟩ := group
  have some : plan.origins ≠ [] := by
    intro none
    rw [none, List.map_nil, eq_comm, List.map_eq_nil_iff] at ids
    exact nonempty ids
  have uniform : ∀ origin ∈ plan.origins, origin.typeId = id := by
    intro origin member
    have listed := List.mem_map_of_mem (f := (·.typeId)) member
    rw [ids] at listed
    obtain ⟨facet, facetIn, equal⟩ := List.mem_map.mp listed
    rw [← equal, same facet facetIn]
  refine ⟨plan.origins.getLast some, ⟨List.getLast?_eq_getLast_of_ne_nil some, nodes, ?_⟩, patterns⟩
  intro first firstIn second secondIn
  rw [uniform first firstIn, uniform second secondIn]

theorem links_of_ofHops {source : Origin} {hops : List Hop}
    (groups : ∀ hop ∈ hops, IsFacetGroup hop.targets)
    (reduced : ofHops grammar (some source) hops labels = .ok (plan, after)) :
    Links source plan.origins plan.patterns := by
  induction hops generalizing source labels plan with
  | nil =>
    obtain ⟨rfl, rfl⟩ := ofHops_nil_eq_ok.mp reduced
    exact .nil
  | cons hop rest ih =>
    obtain ⟨relation, second, targets, third, later, related, grouped, hopped, rfl⟩ :=
      ofHops_cons_eq_ok.mp reduced
    obtain ⟨entry, _, rfl, rfl⟩ := ofRelation_eq_ok.mp related
    obtain ⟨target, isGroup, patterns⟩ :=
      isGroup_of_ofGroup (groups hop List.mem_cons_self) grouped
    have final : targets.lastOrigin? = some target := isGroup.last
    rw [final] at hopped ⊢
    have links := ih (fun other member => groups other (List.mem_cons_of_mem hop member)) hopped
    have chain : Links source
        (⟨entry.id, .relationship, (labels.mint entry).1⟩ :: (targets.origins ++ later.origins))
        (⟨source, target, ⟨entry.id, .relationship, (labels.mint entry).1⟩⟩ :: later.patterns) :=
      .cons rfl isGroup links
    simpa [ofLink, lastOrigin?, patterns] using chain

theorem hopChain_of_ofTree {tree : Tree} (sources : IsFacetGroup tree.sources)
    (groups : ∀ hop ∈ tree.hops, IsFacetGroup hop.targets)
    (reduced : ofTree grammar tree labels = .ok (plan, after)) : HopChain plan := by
  obtain ⟨first, middle, later, grouped, hopped, rfl⟩ := ofTree_eq_ok.mp reduced
  obtain ⟨last, isGroup, patterns⟩ := isGroup_of_ofGroup sources grouped
  have final : first.lastOrigin? = some last := isGroup.last
  rw [final] at hopped
  have links : Links last later.origins (first ++ later).patterns := by
    simpa only [patterns_append, patterns, List.nil_append] using links_of_ofHops groups hopped
  exact links.hopChain isGroup (origins_append first later)

theorem isFacetGroup_of_groupText {bare : BareRule} {facets : List Facet} {text rest : List Char}
    (spoken : GroupText bare grammar facets text rest) : IsFacetGroup facets := by
  obtain ⟨entry, _, series⟩ := spoken
  refine ⟨series.ne_nil, entry.id, fun facet member => ?_⟩
  obtain ⟨_, _, ⟨_⟩⟩ := series.exists_item member
  rfl

theorem isFacetGroup_of_treeText {bare : BareRule} {tree : Tree} {text rest : List Char}
    (spoken : TreeText bare grammar tree text rest) :
    IsFacetGroup tree.sources ∧ ∀ hop ∈ tree.hops, IsFacetGroup hop.targets := by
  obtain ⟨_, sources, hops⟩ := spoken
  refine ⟨isFacetGroup_of_groupText sources, fun hop member => ?_⟩
  obtain ⟨_, _, ⟨_, _, _, _, targets⟩⟩ := hops.exists_item member
  exact isFacetGroup_of_groupText targets

/-- The patterns of a plan are the hops of its query, each between the groups around it. -/
theorem hopChain_of_parse {schema : Schema} {maxLength : Nat} {parser : Parser} {query : String}
    (assembled : Parser.ofSchema schema maxLength = .ok parser)
    (parsed : parser.parse query = .ok plan) : HopChain plan := by
  obtain ⟨_, rfl⟩ := Parser.ofSchema_eq_ok.mp assembled
  obtain ⟨_, ⟨_, rfl⟩ | ⟨_, found, after, read, reduced⟩⟩ := Parser.parse_eq_ok.mp parsed
  · exact hopChain_empty
  · obtain ⟨sources, groups⟩ := isFacetGroup_of_treeText (tree_of_read read).1
    exact hopChain_of_ofTree sources groups reduced

theorem hopChain_of_parse_town :
    ∃ plan, Parser.townParser.parse
        "Person or Person that likes Person and People who lives in the City" = .ok plan ∧
      plan.patterns.length = 2 ∧ HopChain plan := by
  have parsed : ((Parser.townParser.parse
      "Person or Person that likes Person and People who lives in the City").toOption.map
        (·.patterns.length)) = some 2 := by
    decide +kernel
  obtain ⟨plan, found, two⟩ := Option.map_eq_some_iff.mp parsed
  have parsed := Parser.eq_ok_of_toOption found
  exact ⟨plan, parsed, two, hopChain_of_parse Parser.ofSchema_town parsed⟩

end GraphQuery.Plan
