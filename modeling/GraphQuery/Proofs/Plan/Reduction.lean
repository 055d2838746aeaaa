import GraphQuery.Proofs.Grammar.Assembly
import GraphQuery.Query.Productions

/-! How a tree becomes a plan, one equation for each part of the tree.

The equations say when a part has a plan and how it is put together, so that what holds of plans can
be shown by induction over the facets of a group and over hops. -/

set_option autoImplicit false

namespace GraphQuery

def Condition.content (condition : Condition) : Lookup × String × String :=
  (condition.lookup, condition.key, condition.value)

namespace Query

def Clause.content (clause : Clause) : Lookup × String × String :=
  (clause.lookup, clause.key, clause.value.text)

def clausesOf (facets : List Facet) : List Clause :=
  facets.flatMap (·.clauses)

def Tree.clauses (tree : Tree) : List Clause :=
  clausesOf tree.sources ++ tree.hops.flatMap fun hop => clausesOf hop.targets

end Query

namespace Plan

open Grammar Query

variable {grammar : Grammar} {labels after : Labels} {plan : Plan}

theorem ok_eq_ok {ε α β : Type} {first value : α} {second other : β} :
    (.ok (first, second) : Except ε (α × β)) = .ok (value, other) ↔ value = first ∧ other = second := by
  rw [Except.ok.injEq, Prod.mk.injEq, eq_comm, eq_comm (a := second)]

theorem ofFacet_eq_ok {facet : Facet} :
    ofFacet grammar facet labels = .ok (plan, after) ↔
      ∃ entry, grammar.entry? .node facet.typeId = some entry ∧
        plan = { conditions := facet.clauses.map fun clause =>
                   ⟨clause.lookup, (labels.mint entry).1, clause.key, clause.value.text⟩
                 origins := [⟨entry.id, .node, (labels.mint entry).1⟩]
                 results := [⟨(labels.mint entry).1, facet.projection⟩] } ∧
        after = (labels.mint entry).2 := by
  unfold ofFacet
  cases found : grammar.entry? .node facet.typeId with
  | none => simp
  | some entry => simp only [ok_eq_ok, Option.some.injEq, exists_eq_left']

theorem ofGroup_nil_eq_ok :
    ofGroup grammar [] labels = .ok (plan, after) ↔ plan = ∅ ∧ after = labels := by
  rw [show ofGroup grammar [] labels = .ok (∅, labels) from rfl, ok_eq_ok]

theorem ofGroup_cons_eq_ok {facet : Facet} {rest : List Facet} :
    ofGroup grammar (facet :: rest) labels = .ok (plan, after) ↔
      ∃ first middle more, ofFacet grammar facet labels = .ok (first, middle) ∧
        ofGroup grammar rest middle = .ok (more, after) ∧ plan = first ++ more := by
  simp only [ofGroup, ofFacets, bind_eq_ok, pure, Except.pure, Except.ok.injEq, Prod.exists,
    Prod.mk.injEq]
  constructor
  · rintro ⟨_, _, ⟨first, middle, head, more, _, tail, rfl, rfl⟩, rfl, rfl⟩
    exact ⟨first, middle, merge more, head, ⟨more, _, tail, rfl, rfl⟩, merge_cons first more⟩
  · rintro ⟨first, middle, _, head, ⟨more, _, tail, rfl, rfl⟩, rfl⟩
    exact ⟨first :: more, _, ⟨first, middle, head, more, _, tail, rfl, rfl⟩, merge_cons first more, rfl⟩

theorem ofRelation_eq_ok {id : TypeId} :
    ofRelation grammar id labels = .ok (plan, after) ↔
      ∃ entry, grammar.entry? .relationship id = some entry ∧
        plan = { origins := [⟨entry.id, .relationship, (labels.mint entry).1⟩]
                 results := [⟨(labels.mint entry).1, some []⟩] } ∧
        after = (labels.mint entry).2 := by
  unfold ofRelation
  cases found : grammar.entry? .relationship id with
  | none => simp
  | some entry => simp only [ok_eq_ok, Option.some.injEq, exists_eq_left']

/-! A link adds a pattern at most. -/

section Link
variable (source relation target : Option Origin)

@[simp] theorem origins_ofLink : (ofLink source relation target).origins = [] := by
  unfold ofLink
  split <;> rfl

@[simp] theorem results_ofLink : (ofLink source relation target).results = [] := by
  unfold ofLink
  split <;> rfl

@[simp] theorem conditions_ofLink : (ofLink source relation target).conditions = [] := by
  unfold ofLink
  split <;> rfl

end Link

theorem ofHops_nil_eq_ok {source : Option Origin} :
    ofHops grammar source [] labels = .ok (plan, after) ↔ plan = ∅ ∧ after = labels := by
  rw [ofHops, ok_eq_ok]

theorem ofHops_cons_eq_ok {source : Option Origin} {hop : Hop} {rest : List Hop} :
    ofHops grammar source (hop :: rest) labels = .ok (plan, after) ↔
      ∃ relation second targets third later,
        ofRelation grammar hop.relation labels = .ok (relation, second) ∧
        ofGroup grammar hop.targets second = .ok (targets, third) ∧
        ofHops grammar targets.lastOrigin? rest third = .ok (later, after) ∧
        plan = relation ++ targets ++ ofLink source relation.lastOrigin? targets.lastOrigin? ++ later := by
  simp only [ofHops, bind_eq_ok, pure, Except.pure, Except.ok.injEq, Prod.exists, Prod.mk.injEq]
  constructor
  · rintro ⟨relation, second, related, targets, third, grouped, later, _, hopped, rfl, rfl⟩
    exact ⟨relation, second, targets, third, later, related, grouped, hopped, rfl⟩
  · rintro ⟨relation, second, targets, third, later, related, grouped, hopped, rfl⟩
    exact ⟨relation, second, related, targets, third, grouped, later, _, hopped, rfl, rfl⟩

theorem ofTree_eq_ok {tree : Tree} :
    ofTree grammar tree labels = .ok (plan, after) ↔
      ∃ sources middle later, ofGroup grammar tree.sources labels = .ok (sources, middle) ∧
        ofHops grammar sources.lastOrigin? tree.hops middle = .ok (later, after) ∧
        plan = sources ++ later := by
  simp only [ofTree, bind_eq_ok, pure, Except.pure, Except.ok.injEq, Prod.exists, Prod.mk.injEq]
  constructor
  · rintro ⟨sources, middle, grouped, later, _, hopped, rfl, rfl⟩
    exact ⟨sources, middle, later, grouped, hopped, rfl⟩
  · rintro ⟨sources, middle, later, grouped, hopped, rfl⟩
    exact ⟨sources, middle, grouped, later, _, hopped, rfl, rfl⟩

/-! Trees that name declared types only have a plan, whatever labels were given before. -/

def Declared (grammar : Grammar) (facets : List Facet) : Prop :=
  ∀ facet ∈ facets, (grammar.entry? .node facet.typeId).isSome

theorem exists_ofGroup {facets : List Facet} (declared : Declared grammar facets) :
    ∃ plan after, ofGroup grammar facets labels = .ok (plan, after) := by
  induction facets generalizing labels with
  | nil => exact ⟨∅, labels, rfl⟩
  | cons facet rest ih =>
    obtain ⟨entry, found⟩ := Option.isSome_iff_exists.mp (declared facet List.mem_cons_self)
    obtain ⟨more, after, grouped⟩ := ih fun other member =>
      declared other (List.mem_cons_of_mem facet member)
    exact ⟨_, after, ofGroup_cons_eq_ok.mpr
      ⟨_, _, more, ofFacet_eq_ok.mpr ⟨entry, found, rfl, rfl⟩, grouped, rfl⟩⟩

theorem exists_ofHops {source : Option Origin} {hops : List Hop}
    (declared : ∀ hop ∈ hops, (grammar.entry? .relationship hop.relation).isSome ∧
      Declared grammar hop.targets) :
    ∃ plan after, ofHops grammar source hops labels = .ok (plan, after) := by
  induction hops generalizing source labels with
  | nil => exact ⟨∅, labels, rfl⟩
  | cons hop rest ih =>
    obtain ⟨known, targets⟩ := declared hop List.mem_cons_self
    obtain ⟨entry, found⟩ := Option.isSome_iff_exists.mp known
    obtain ⟨group, middle, grouped⟩ := exists_ofGroup targets
    obtain ⟨later, after, hopped⟩ := ih fun other member =>
      declared other (List.mem_cons_of_mem hop member)
    exact ⟨_, after, ofHops_cons_eq_ok.mpr
      ⟨_, _, group, middle, later, ofRelation_eq_ok.mpr ⟨entry, found, rfl, rfl⟩, grouped, hopped, rfl⟩⟩

theorem exists_ofTree {tree : Tree} (sources : Declared grammar tree.sources)
    (hops : ∀ hop ∈ tree.hops, (grammar.entry? .relationship hop.relation).isSome ∧
      Declared grammar hop.targets) :
    ∃ plan after, ofTree grammar tree labels = .ok (plan, after) := by
  obtain ⟨first, middle, grouped⟩ := exists_ofGroup sources
  obtain ⟨later, after, hopped⟩ := exists_ofHops hops
  exact ⟨_, after, ofTree_eq_ok.mpr ⟨first, middle, later, grouped, hopped, rfl⟩⟩

/-! Entries may be under other names, and there may be more of them. -/

def Keeps (grammar other : Grammar) : Prop :=
  ∀ kind id entry, grammar.entry? kind id = some entry →
    ∃ name, other.entry? kind id = some { entry with name }

section Keeps
variable {other : Grammar} (keeps : Keeps grammar other)
include keeps

theorem ofGroup_of_keeps {facets : List Facet}
    (reduced : ofGroup grammar facets labels = .ok (plan, after)) :
    ofGroup other facets labels = .ok (plan, after) := by
  induction facets generalizing labels plan with
  | nil => exact ofGroup_nil_eq_ok.mpr (ofGroup_nil_eq_ok.mp reduced)
  | cons facet rest ih =>
    obtain ⟨first, middle, more, head, tail, rfl⟩ := ofGroup_cons_eq_ok.mp reduced
    obtain ⟨entry, found, same, minted⟩ := ofFacet_eq_ok.mp head
    obtain ⟨name, kept⟩ := keeps _ _ _ found
    exact ofGroup_cons_eq_ok.mpr
      ⟨first, middle, more, ofFacet_eq_ok.mpr ⟨_, kept, same, minted⟩, ih tail, rfl⟩

theorem ofHops_of_keeps {source : Option Origin} {hops : List Hop}
    (reduced : ofHops grammar source hops labels = .ok (plan, after)) :
    ofHops other source hops labels = .ok (plan, after) := by
  induction hops generalizing source labels plan with
  | nil => exact ofHops_nil_eq_ok.mpr (ofHops_nil_eq_ok.mp reduced)
  | cons hop rest ih =>
    obtain ⟨relation, second, targets, third, later, related, grouped, hopped, rfl⟩ :=
      ofHops_cons_eq_ok.mp reduced
    obtain ⟨entry, found, same, minted⟩ := ofRelation_eq_ok.mp related
    obtain ⟨name, kept⟩ := keeps _ _ _ found
    exact ofHops_cons_eq_ok.mpr ⟨relation, second, targets, third, later,
      ofRelation_eq_ok.mpr ⟨_, kept, same, minted⟩, ofGroup_of_keeps keeps grouped, ih hopped, rfl⟩

theorem ofTree_of_keeps {tree : Tree} (reduced : ofTree grammar tree labels = .ok (plan, after)) :
    ofTree other tree labels = .ok (plan, after) := by
  obtain ⟨sources, middle, later, grouped, hopped, rfl⟩ := ofTree_eq_ok.mp reduced
  exact ofTree_eq_ok.mpr ⟨sources, middle, later, ofGroup_of_keeps keeps grouped,
    ofHops_of_keeps keeps hopped, rfl⟩

end Keeps

/-! The conditions of a plan say what the clauses of its tree say, in their order. -/

theorem contents_of_ofGroup {facets : List Facet}
    (reduced : ofGroup grammar facets labels = .ok (plan, after)) :
    plan.conditions.map (·.content) = (clausesOf facets).map (·.content) := by
  induction facets generalizing labels plan with
  | nil =>
    obtain ⟨rfl, _⟩ := ofGroup_nil_eq_ok.mp reduced
    rfl
  | cons facet rest ih =>
    obtain ⟨first, middle, more, head, tail, rfl⟩ := ofGroup_cons_eq_ok.mp reduced
    obtain ⟨entry, _, rfl, _⟩ := ofFacet_eq_ok.mp head
    rw [conditions_append, List.map_append, List.map_map, ih tail, clausesOf, clausesOf,
      List.flatMap_cons, List.map_append]
    rfl

theorem contents_of_ofHops {source : Option Origin} {hops : List Hop}
    (reduced : ofHops grammar source hops labels = .ok (plan, after)) :
    plan.conditions.map (·.content) =
      (hops.flatMap fun hop => clausesOf hop.targets).map (·.content) := by
  induction hops generalizing source labels plan with
  | nil =>
    obtain ⟨rfl, _⟩ := ofHops_nil_eq_ok.mp reduced
    rfl
  | cons hop rest ih =>
    obtain ⟨relation, second, targets, third, later, related, grouped, hopped, rfl⟩ :=
      ofHops_cons_eq_ok.mp reduced
    obtain ⟨entry, _, rfl, _⟩ := ofRelation_eq_ok.mp related
    simp [contents_of_ofGroup grouped, ih hopped]

theorem contents_of_ofTree {tree : Tree} (reduced : ofTree grammar tree labels = .ok (plan, after)) :
    plan.conditions.map (·.content) = tree.clauses.map (·.content) := by
  obtain ⟨sources, middle, later, grouped, hopped, rfl⟩ := ofTree_eq_ok.mp reduced
  rw [conditions_append, List.map_append, contents_of_ofGroup grouped, contents_of_ofHops hopped,
    Tree.clauses, List.map_append]

end Plan
end GraphQuery
