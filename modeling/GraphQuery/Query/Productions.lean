import GraphQuery.Grammar.Basic
import GraphQuery.Query.Terminals

/-! The productions of the query language over the entries of a grammar. -/

set_option autoImplicit false

namespace GraphQuery.Query

open Text Grammar

/-- One or more properties, as in `<property>, <property> and <property>`. -/
def propertyList (entry : TypeEntry) : Matcher (List String) := do
  let first ← property entry
  let more ← Matcher.many do
    listSeparator
    property entry
  pure (first :: more)

/-- What is asked for, before the name of a type: `<properties> of|from [the]`. -/
def projection (entry : TypeEntry) : Matcher (List String) := do
  let keys ← propertyList entry
  space
  anyWord projectionJoiners
  space
  let _ ← Matcher.optional do
    word "the"
    space
  pure keys

/-- How a hop may begin: `that|who <relationship>`. -/
def relationshipStart (grammar : Grammar) : Matcher Unit := do
  anyWord relationshipOpeners
  space
  .firstOf (grammar.relationshipEntries.map typeName)

/-- What shows, after a connective, that a value does not go on. -/
def continuation (grammar : Grammar) (entry : TypeEntry) (text : List Char) : Bool :=
  (word conditionOpener).accepts text
    || (property entry).accepts text
    || lookup.accepts text
    || (typeName entry).accepts text
    || (projection entry).accepts text
    || (relationshipStart grammar).accepts text

/-- Whether a bare value of a condition on the type ends before this text: when a relationship
follows, or a connective and then more about the type. -/
def endsValue (grammar : Grammar) (entry : TypeEntry) (text : List Char) : Bool :=
  match readSpace? text with
  | none => false
  | some (_, after) =>
    (relationshipStart grammar).accepts after ||
      match ((do connective; space : Matcher Unit) after).result with
      | none => false
      | some (_, next) => continuation grammar entry next

def value (grammar : Grammar) (entry : TypeEntry) : Matcher Value :=
  .piece [.value] fun text =>
    readLiteral? text <|> readBare? (endsValue grammar entry) text

/-- How a condition may begin: `with [a|an|the]`. -/
def conditionOpening : Matcher Unit := do
  word conditionOpener
  let _ ← Matcher.optional do
    space
    article
  space

/-- What follows a property: `[<lookup>] <value>`. -/
def comparison (grammar : Grammar) (entry : TypeEntry) : Matcher (Lookup × Value) := do
  space
  let lookup ← Matcher.optional lookup
  if lookup.isSome then space
  let value ← value grammar entry
  pure (lookup.getD defaultLookup, value)

/-- A condition on a property: `<property> [of] [<lookup>] <value>`. Where nothing follows `of`, it
is the value. -/
def namedCondition (grammar : Grammar) (entry : TypeEntry) : Matcher Clause := do
  let key ← property entry
  let (lookup, value) ← Matcher.orElse
    (do
      space
      word "of"
      comparison grammar entry)
    (comparison grammar entry)
  pure ⟨key, lookup, value⟩

/-- A condition on the only property of a type: `<lookup> <value>`. -/
def impliedCondition (grammar : Grammar) (entry : TypeEntry) : Matcher Clause :=
  match entry.onlyProperty? with
  | none => .reject
  | some only => do
    let lookup ← lookup
    space
    let value ← value grammar entry
    pure ⟨only.key, lookup, value⟩

def condition (grammar : Grammar) (entry : TypeEntry) : Matcher Clause := do
  let _ ← conditionOpening.optional
  .orElse (namedCondition grammar entry) (impliedCondition grammar entry)

def joined {α : Type} (matcher : Matcher α) : Matcher α := do
  space
  connective
  space
  matcher

def conditions (grammar : Grammar) (entry : TypeEntry) : Matcher (List Clause) := do
  let found ← Matcher.optional do
    space
    let first ← condition grammar entry
    let more ← (joined (condition grammar entry)).many
    pure (first :: more)
  pure (found.getD [])

def nodeFacet (grammar : Grammar) (entry : TypeEntry) : Matcher Facet := do
  let keys ← (projection entry).optional
  typeName entry
  let clauses ← conditions grammar entry
  pure ⟨entry.id, keys, clauses⟩

/-- A facet of whichever type reads furthest, with the entry of that type. -/
def anyNodeFacet (grammar : Grammar) : Matcher (TypeEntry × Facet) :=
  .furthestOf (grammar.nodeEntries.map fun entry => do
    let facet ← nodeFacet grammar entry
    pure (entry, facet))

def group (grammar : Grammar) : Matcher (List Facet) := do
  let (entry, first) ← anyNodeFacet grammar
  let more ← (joined (nodeFacet grammar entry)).many
  pure (first :: more)

/-- A relationship: `[and|or] that|who <relationship> [a|an|the]`. -/
def relationshipFacet (entry : TypeEntry) : Matcher TypeId := do
  let _ ← Matcher.optional do
    connective
    space
  anyWord relationshipOpeners
  space
  typeName entry
  let _ ← Matcher.optional do
    space
    article
  pure entry.id

def anyRelationshipFacet (grammar : Grammar) : Matcher TypeId :=
  .furthestOf (grammar.relationshipEntries.map relationshipFacet)

def hop (grammar : Grammar) : Matcher Hop := do
  space
  let relation ← anyRelationshipFacet grammar
  space
  let targets ← group grammar
  pure ⟨relation, targets⟩

def tree (grammar : Grammar) : Matcher Tree := do
  let sources ← group grammar
  let hops ← (hop grammar).many
  endOfQuery
  pure ⟨sources, hops⟩

end GraphQuery.Query
