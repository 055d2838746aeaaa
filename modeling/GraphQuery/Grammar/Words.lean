import GraphQuery.Plan.Basic

/-! The fixed words of the query language, which no schema provides. -/

set_option autoImplicit false

namespace GraphQuery.Grammar

def connectives : List String := ["and", "or"]

/-- Phrases that introduce a comparison, in the order in which they are tried. Without a phrase
a condition compares for equality. -/
def lookupPhrases : List (List String × Lookup) :=
  [(["that", "starts", "with"], .istartswith),
   (["that", "start", "with"], .istartswith),
   (["that", "ends", "with"], .iendswith),
   (["that", "end", "with"], .iendswith),
   (["greater", "than"], .gt),
   (["lower", "than"], .lt),
   (["less", "than"], .lt),
   (["equal", "to"], .iexact)]

def defaultLookup : Lookup := .iexact

def conditionOpener : String := "with"

def relationshipOpeners : List String := ["that", "who"]

def articles : List String := ["an", "a", "the"]

def projectionJoiners : List String := ["of", "from"]

end GraphQuery.Grammar
