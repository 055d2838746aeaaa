import GraphQuery.Grammar.Entry

/-! Labels for the occurrences of types in one query. -/

set_option autoImplicit false

namespace GraphQuery

structure Labels where
  used : Kind → TypeId → Nat

namespace Labels

def fresh : Labels where
  used _ _ := 0

def mint (labels : Labels) (entry : Grammar.TypeEntry) : String × Labels where
  fst := entry.label (labels.used entry.kind entry.id)
  snd := { used kind id :=
    if kind = entry.kind ∧ id = entry.id then labels.used kind id + 1 else labels.used kind id }

end Labels
end GraphQuery
