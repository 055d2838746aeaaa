import GraphQuery.Grammar.Basic
import GraphQuery.Plan.Labels
import GraphQuery.Query.Tree

/-! The plan of a query's tree. Every facet and every relationship takes a label, from left to
right, and contributes one fragment. A fault comes with the labels as they were when it was met. -/

set_option autoImplicit false

namespace GraphQuery.Plan

open Grammar Query

def ofFacet (grammar : Grammar) (facet : Facet) (labels : Labels) :
    Except (Fault × Labels) (Plan × Labels) :=
  match grammar.entry? .node facet.typeId with
  | none => .error (.missing .node facet.typeId, labels)
  | some entry =>
    let (label, labels) := labels.mint entry
    .ok ({ conditions := facet.clauses.map fun clause =>
             ⟨clause.lookup, label, clause.key, clause.value.text⟩
           origins := [⟨entry.id, .node, label⟩]
           results := [⟨label, facet.projection⟩] }, labels)

def ofFacets (grammar : Grammar) :
    List Facet → Labels → Except (Fault × Labels) (List Plan × Labels)
  | [], labels => .ok ([], labels)
  | facet :: rest, labels => do
    let (first, labels) ← ofFacet grammar facet labels
    let (more, labels) ← ofFacets grammar rest labels
    pure (first :: more, labels)

def ofGroup (grammar : Grammar) (group : List Facet) (labels : Labels) :
    Except (Fault × Labels) (Plan × Labels) := do
  let (plans, labels) ← ofFacets grammar group labels
  pure (merge plans, labels)

def ofRelation (grammar : Grammar) (id : TypeId) (labels : Labels) :
    Except (Fault × Labels) (Plan × Labels) :=
  match grammar.entry? .relationship id with
  | none => .error (.missing .relationship id, labels)
  | some entry =>
    let (label, labels) := labels.mint entry
    .ok ({ origins := [⟨entry.id, .relationship, label⟩]
           results := [⟨label, some []⟩] }, labels)

/-- Connects the last nodes of two groups by the relationship between them. -/
def ofLink (source relation target : Option Origin) : Plan :=
  match source, relation, target with
  | some source, some relation, some target => { patterns := [⟨source, target, relation⟩] }
  | _, _, _ => ∅

/-- The plan of all hops that start from a group whose last node is `source`. -/
def ofHops (grammar : Grammar) (source : Option Origin) :
    List Hop → Labels → Except (Fault × Labels) (Plan × Labels)
  | [], labels => .ok (∅, labels)
  | hop :: rest, labels => do
    let (relation, labels) ← ofRelation grammar hop.relation labels
    let (targets, labels) ← ofGroup grammar hop.targets labels
    let target := targets.lastOrigin?
    let (later, labels) ← ofHops grammar target rest labels
    pure (relation ++ targets ++ ofLink source relation.lastOrigin? target ++ later, labels)

def ofTree (grammar : Grammar) (tree : Tree) (labels : Labels) :
    Except (Fault × Labels) (Plan × Labels) := do
  let (sources, labels) ← ofGroup grammar tree.sources labels
  let (later, labels) ← ofHops grammar sources.lastOrigin? tree.hops labels
  pure (sources ++ later, labels)

end GraphQuery.Plan
