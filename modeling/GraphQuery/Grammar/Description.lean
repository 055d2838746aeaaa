import GraphQuery.Grammar.Basic
import GraphQuery.Grammar.Words
import GraphQuery.Text.Quoted

/-! The text of a grammar: its rules one by one, in the manner of a parsing expression
grammar with what each alternative yields behind an arrow. -/

set_option autoImplicit false

namespace GraphQuery.Grammar

open Text

def orElse (alternatives : List String) : String :=
  " | ".intercalate alternatives

def noAlternative : String := "~anything"

def choice (alternatives : List String) : String :=
  if alternatives.isEmpty then noAlternative else orElse alternatives

def quotedForms (forms : List (List Char)) : String :=
  orElse (forms.map fun form => .ofList (quoted form))

def quotedWords (words : List String) : String :=
  orElse (words.map quote)

namespace TypeEntry

def nameLine (entry : TypeEntry) : String :=
  s!"{entry.tag} = {quotedForms entry.forms} -> " ++
    s!"\x7btype_id: {entry.id}, type: {entry.kind.name}\x7d"

def propertyTag (entry : TypeEntry) (index : Nat) : String :=
  s!"{entry.tag}_property{index}"

def propertyLine (entry : TypeEntry) (property : PropertyEntry) (index : Nat) : String :=
  s!"{entry.propertyTag index} = {quotedForms property.forms} -> {quote property.key}"

def propertyLines (entry : TypeEntry) : List String :=
  entry.properties.mapIdx fun index property => entry.propertyLine property index

def anyPropertyLine (entry : TypeEntry) : String :=
  let tags := entry.properties.mapIdx fun index _ => entry.propertyTag index
  s!"{entry.tag}_property = {choice tags}"

def propertyListLine (entry : TypeEntry) : String :=
  s!"{entry.tag}_properties = {entry.tag}_property ((',' | 'and') {entry.tag}_property)* | -> []"

def conditionLine (entry : TypeEntry) : String :=
  let implicit := match entry.onlyProperty? with
    | some property => s!" | op value -> {quote property.key}"
    | none => ""
  s!"{entry.tag}_condition = n_facet? ({entry.tag}_property 'of'? op? value{implicit})"

def nodeFacetLine (entry : TypeEntry) : String :=
  let tag := entry.tag
  s!"{tag}_facet = ({tag}_properties ('of' | 'from') 'the'?)? {tag} " ++
    s!"({tag}_condition (conditions {tag}_condition)*)?\n" ++
    s!"    | {tag}_facet conditions {tag}_facet"

def relationshipFacetLine (entry : TypeEntry) : String :=
  s!"{entry.tag}_facet = conditions? r_facet {entry.tag} ('a' | 'an' | 'the')?"

def facetLines (entry : TypeEntry) : List String :=
  match entry.kind with
  | .node => [entry.conditionLine, entry.nodeFacetLine]
  | .relationship => [entry.relationshipFacetLine]

def lines (entry : TypeEntry) : List String :=
  entry.nameLine :: entry.propertyLines ++ entry.anyPropertyLine :: entry.propertyListLine ::
    entry.facetLines

end TypeEntry

def unlines (lines : List String) : String :=
  String.join (lines.map (· ++ "\n"))

def TypeEntry.describe (entry : TypeEntry) : String :=
  unlines entry.lines

def connectivesLine : String :=
  let alternatives := connectives.map fun word => s!"{quote word} -> {quote word}"
  "conditions = " ++ orElse (alternatives ++ ["-> " ++ quote "and"])

def lookupAlternative (words : List String) (lookup : Lookup) : String :=
  let phrase := " ".intercalate (words.map quote)
  s!"({phrase}) -> {quote lookup.name}"

def lookupsLine : String :=
  let phrases := lookupPhrases.map fun (words, lookup) => lookupAlternative words lookup
  "op = " ++ "\n   | ".intercalate (phrases ++ [s!"-> {quote defaultLookup.name}"])

def wordLines : List String :=
  [connectivesLine,
   lookupsLine,
   s!"n_facet = {quote conditionOpener} ({quotedWords articles})?",
   s!"r_facet = {quotedWords relationshipOpeners}",
   "value = '\"' <any>* '\"' | \"'\" <any>* \"'\" | <any until a continuation>+"]

def facetTags (entries : List TypeEntry) : List String :=
  entries.map fun entry => s!"{entry.tag}_facet"

def lines (grammar : Grammar) : List String :=
  wordLines ++ (grammar.nodeEntries ++ grammar.relationshipEntries).flatMap (·.lines) ++
    [s!"n_types = {choice (facetTags grammar.nodeEntries)}",
     s!"r_types = {choice (facetTags grammar.relationshipEntries)}",
     "rel = r_types n_types",
     "dict = n_types rel* | -> \x7b\x7d"]

def describe (grammar : Grammar) : String :=
  unlines grammar.lines

end GraphQuery.Grammar
