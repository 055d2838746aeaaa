import GraphQuery.Parser

/-! Sessions: a parser with labels that outlive one query. -/

set_option autoImplicit false

namespace GraphQuery

structure Session where
  parser : Parser
  labels : Labels

namespace Session

def start (parser : Parser) : Session where
  parser := parser
  labels := .fresh

def reset (session : Session) : Session :=
  { session with labels := .fresh }

def mint (session : Session) (entry : Grammar.TypeEntry) : String × Session :=
  let (label, labels) := session.labels.mint entry
  (label, { session with labels })

def mint? (session : Session) (kind : Kind) (id : TypeId) : Option (String × Session) :=
  (session.parser.grammar.entry? kind id).map session.mint

/-- Every query starts with fresh labels. Those that it took remain taken. -/
def parse (session : Session) (query : String) : Except Failure Plan × Session :=
  let session := session.reset
  let (answer, labels) := session.parser.parseFrom session.labels query
  (answer, { session with labels })

end Session
end GraphQuery
