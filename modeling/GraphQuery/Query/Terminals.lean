import GraphQuery.Grammar.Entry
import GraphQuery.Grammar.Words
import GraphQuery.Query.Matcher
import GraphQuery.Query.Tree
import GraphQuery.Text.Whitespace

/-! The smallest pieces of a query: fixed words, spaces, names and literals. -/

set_option autoImplicit false

namespace GraphQuery.Query

open Text Grammar

/-- Reads a word in any letter case, unless a longer word begins with it. -/
def readWord? (word : List Char) (text : List Char) : Option (Reading Unit) :=
  let found := text.take word.length
  let rest := text.drop word.length
  if equalFold found word && wordEnds found rest then some ((), rest) else none

def word (word : String) : Matcher Unit :=
  .piece [.word word] (readWord? word.toList)

def anyWord (words : List String) : Matcher Unit :=
  .firstOf (words.map word)

def readSpace? : List Char → Option (Reading Unit)
  | [] => none
  | c :: rest => if isBlank c then some ((), rest.dropWhile isBlank) else none

def space : Matcher Unit :=
  .piece [.whitespace] readSpace?

def readEnd? (text : List Char) : Option (Reading Unit) :=
  if text = [] then some ((), text) else none

def endOfQuery : Matcher Unit :=
  .piece [.endOfQuery] readEnd?

def phrase : List String → Matcher Unit
  | [] => pure ()
  | [last] => word last
  | first :: rest => do
    word first
    space
    phrase rest

def connective : Matcher Unit :=
  anyWord connectives

def article : Matcher Unit :=
  anyWord articles

def lookup : Matcher Lookup :=
  .firstOf (lookupPhrases.map fun (words, lookup) => do
    phrase words
    pure lookup)

def typeName (entry : TypeEntry) : Matcher Unit :=
  .piece [.name entry.name] fun text =>
    (readForm? entry.forms text).map fun reading => ((), reading.2)

def property (entry : TypeEntry) : Matcher String :=
  .piece (entry.properties.map fun property => .name property.key) entry.readProperty?

def readComma? (text : List Char) : Option (Reading Unit) :=
  match text.dropWhile isBlank with
  | ',' :: rest => some ((), rest.dropWhile isBlank)
  | _ => none

/-- A comma with or without space around it. It is never reported as missing. -/
def comma : Matcher Unit :=
  .piece [] readComma?

def listSeparator : Matcher Unit :=
  .orElse comma do
    space
    word "and"
    space

def readLiteral? : List Char → Option (Reading Value)
  | [] => none
  | c :: text =>
    if c == '"' || c == '\'' then
      match text.dropWhile (· != c) with
      | [] => none
      | _ :: rest => some (.literal c (.ofList (text.takeWhile (· != c))), rest)
    else none

def splitAtStop (stops : List Char → Bool) : List Char → List Char × List Char
  | [] => ([], [])
  | c :: text =>
    if c = ' ' && stops (c :: text) then ([], c :: text)
    else
      let split := splitAtStop stops text
      (c :: split.1, split.2)

def readBare? (stops : List Char → Bool) (text : List Char) : Option (Reading Value) :=
  match splitAtStop stops text with
  | ([], _) => none
  | (read, rest) => some (.bare (.ofList read), rest)

end GraphQuery.Query
