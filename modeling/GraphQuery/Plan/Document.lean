import GraphQuery.Json.Basic
import GraphQuery.Plan.Basic

/-! Plans as JSON documents, the form that a backend takes them in. -/

set_option autoImplicit false

namespace GraphQuery

/-! Writing. -/

def Origin.toJson (origin : Origin) : Json :=
  .object
    [("type_id", .nat origin.typeId.toNat), ("type", .string origin.kind.name),
     ("alias", .string origin.label)]

def Condition.toJson (condition : Condition) : Json :=
  .array
    [.string condition.lookup.name, Json.strings ["property", condition.label, condition.key],
     .string condition.value]

def Pattern.toJson (pattern : Pattern) : Json :=
  .object
    [("source", pattern.source.toJson), ("target", pattern.target.toJson),
     ("relation", pattern.relation.toJson)]

/-- To return the whole of an origin is written `null`, which differs from an empty list. -/
def Selection.toJson (selection : Selection) : Json :=
  .object
    [("alias", .string selection.label),
     ("properties", (selection.properties.map Json.strings).getD .null)]

def Plan.toJson (plan : Plan) : Json :=
  .object
    [("conditions", .array (plan.conditions.map (·.toJson))),
     ("origins", .array (plan.origins.map (·.toJson))),
     ("patterns", .array (plan.patterns.map (·.toJson))),
     ("results", .array (plan.results.map (·.toJson)))]

/-! Reading. -/

def Kind.ofName? : String → Option Kind
  | "node" => some .node
  | "relationship" => some .relationship
  | _ => none

def TypeId.ofJson? (json : Json) : Option TypeId := do
  let n ← json.toNat?
  if n < UInt64.size then some n.toUInt64 else none

def Origin.ofJson? (json : Json) : Option Origin := do
  let typeId ← TypeId.ofJson? (← json.member? "type_id")
  let kind ← Kind.ofName? (← (← json.member? "type").toText?)
  let label ← (← json.member? "alias").toText?
  pure { typeId, kind, label }

def Condition.ofJson? : Json → Option Condition
  | .array [.string lookup, .array [.string "property", .string label, .string key],
      .string value] => do
    let lookup ← Lookup.ofName? lookup
    pure { lookup, label, key, value }
  | _ => none

def Pattern.ofJson? (json : Json) : Option Pattern := do
  let source ← Origin.ofJson? (← json.member? "source")
  let target ← Origin.ofJson? (← json.member? "target")
  let relation ← Origin.ofJson? (← json.member? "relation")
  pure { source, target, relation }

def textsOfJson? (json : Json) : Option (List String) := do
  (← json.toItems?).mapM Json.toText?

def Selection.ofJson? (json : Json) : Option Selection := do
  let label ← (← json.member? "alias").toText?
  match json.member? "properties" with
  | none | some .null => pure { label, properties := none }
  | some properties => pure { label, properties := some (← textsOfJson? properties) }

/-- A list of a plan. One that is not given is empty. -/
def listOfJson? {α : Type} (item? : Json → Option α) (json : Option Json) : Option (List α) :=
  match json with
  | none | some .null => some []
  | some json => do (← json.toItems?).mapM item?

def Plan.ofJson? (json : Json) : Option Plan := do
  let conditions ← listOfJson? Condition.ofJson? (json.member? "conditions")
  let origins ← listOfJson? Origin.ofJson? (json.member? "origins")
  let patterns ← listOfJson? Pattern.ofJson? (json.member? "patterns")
  let results ← listOfJson? Selection.ofJson? (json.member? "results")
  pure { conditions, origins, patterns, results }

end GraphQuery
