import GraphQuery.Failure
import GraphQuery.Grammar.Basic

/-! The grammar of a valid schema. -/

set_option autoImplicit false

namespace GraphQuery.Grammar

def check (grammar : Grammar) : Except Fault Unit := do
  checkEntries [] grammar.nodeEntries
  checkEntries [] grammar.relationshipEntries

def ofSchema (schema : Schema) : Except Failure Grammar := do
  schema.validate.mapError fun flaw => .inconsistentSchema flaw.message
  (ofTypes schema).check.mapError fun fault => .grammar fault.message
  pure (ofTypes schema)

end GraphQuery.Grammar
