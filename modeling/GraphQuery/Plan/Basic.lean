import GraphQuery.Schema.Basic

/-! Query plans: what a graph backend executes.

A plan is four ordered lists that are independent of one another. Fragments of a plan are plans
themselves and are put together list by list. -/

set_option autoImplicit false

namespace GraphQuery

inductive Lookup where
  | iexact
  | istartswith
  | iendswith
  | gt
  | lt
  deriving DecidableEq, Repr

def Lookup.name : Lookup → String
  | .iexact => "iexact"
  | .istartswith => "istartswith"
  | .iendswith => "iendswith"
  | .gt => "gt"
  | .lt => "lt"

def Lookup.ofName? : String → Option Lookup
  | "iexact" => some .iexact
  | "istartswith" => some .istartswith
  | "iendswith" => some .iendswith
  | "gt" => some .gt
  | "lt" => some .lt
  | _ => none

/-- One occurrence of a type in a query. Its label tells it from the others of the plan. -/
structure Origin where
  typeId : TypeId
  kind : Kind
  label : String
  deriving DecidableEq, Repr

structure Condition where
  lookup : Lookup
  label : String
  key : String
  value : String
  deriving DecidableEq, Repr

structure Pattern where
  source : Origin
  target : Origin
  relation : Origin
  deriving DecidableEq, Repr

/-- What to return of an origin: the listed properties, or all of it. -/
structure Selection where
  label : String
  properties : Option (List String)
  deriving DecidableEq, Repr

structure Plan where
  conditions : List Condition := []
  origins : List Origin := []
  patterns : List Pattern := []
  results : List Selection := []
  deriving DecidableEq, Repr

namespace Plan

/-- Appends list by list. Nothing is dropped as a duplicate. -/
def append (first second : Plan) : Plan where
  conditions := first.conditions ++ second.conditions
  origins := first.origins ++ second.origins
  patterns := first.patterns ++ second.patterns
  results := first.results ++ second.results

instance : Append Plan := ⟨append⟩

instance : EmptyCollection Plan := ⟨{}⟩

@[simp] theorem conditions_append (first second : Plan) :
    (first ++ second).conditions = first.conditions ++ second.conditions := rfl

@[simp] theorem origins_append (first second : Plan) :
    (first ++ second).origins = first.origins ++ second.origins := rfl

@[simp] theorem patterns_append (first second : Plan) :
    (first ++ second).patterns = first.patterns ++ second.patterns := rfl

@[simp] theorem results_append (first second : Plan) :
    (first ++ second).results = first.results ++ second.results := rfl

@[simp] theorem empty_append (plan : Plan) : ∅ ++ plan = plan := rfl

@[simp] theorem append_empty (plan : Plan) : plan ++ ∅ = plan := by
  show Plan.mk (plan.conditions ++ []) (plan.origins ++ []) (plan.patterns ++ [])
    (plan.results ++ []) = plan
  simp only [List.append_nil]

theorem append_assoc (first second third : Plan) :
    first ++ second ++ third = first ++ (second ++ third) := by
  show Plan.mk _ _ _ _ = Plan.mk _ _ _ _
  simp only [conditions_append, origins_append, patterns_append, results_append,
    List.append_assoc]

def merge (plans : List Plan) : Plan :=
  plans.foldl (· ++ ·) ∅

theorem foldl_append (first : Plan) (plans : List Plan) :
    plans.foldl (· ++ ·) first = first ++ merge plans := by
  induction plans generalizing first with
  | nil => exact (append_empty first).symm
  | cons plan rest ih =>
    rw [merge, List.foldl_cons, List.foldl_cons, ih, ih, empty_append, append_assoc]

@[simp] theorem merge_cons (plan : Plan) (rest : List Plan) :
    merge (plan :: rest) = plan ++ merge rest := by
  rw [merge, List.foldl_cons, empty_append, foldl_append]

def isEmpty (plan : Plan) : Bool :=
  plan.conditions.isEmpty && plan.origins.isEmpty && plan.patterns.isEmpty && plan.results.isEmpty

def lastOrigin? (plan : Plan) : Option Origin :=
  plan.origins.getLast?

end Plan
end GraphQuery
