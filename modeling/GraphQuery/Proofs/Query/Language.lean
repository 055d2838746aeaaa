import GraphQuery.Grammar.Basic
import GraphQuery.Query.Terminals

/-! The language of queries as a grammar, whatever way a text is matched against it.

A span relates a text to what is left of it after one piece. Every production is a span, and those
that stand for a part of a tree name that part. The grammar is ambiguous: a bare value may be any
text. Which bare values are meant is left to a rule, `Bare`, that sees the type, what stands before
the value and what stands after it. -/

set_option autoImplicit false

namespace GraphQuery.Query.Language

open Text Grammar

abbrev Span := List Char → List Char → Prop

/-! Ways to put spans together. -/

section Combined
variable {α : Type}

def Sequence : List Span → Span
  | [] => Eq
  | [last] => last
  | first :: others => fun text rest => ∃ middle, first text middle ∧ Sequence others middle rest

def Either (first second : Span) : Span :=
  fun text rest => first text rest ∨ second text rest

def Optional (span : Span) : Span :=
  Either Eq span

inductive Repeated (item : α → Span) : List α → Span where
  | nil {text : List Char} : Repeated item [] text text
  | cons {value : α} {more : List α} {text middle rest : List Char} :
      item value text middle → Repeated item more middle rest →
      Repeated item (value :: more) text rest

inductive Series (separator : Span) (item : α → Span) : List α → Span where
  | mk {first : α} {more : List α} {text middle rest : List Char} :
      item first text middle → Repeated (fun value => Sequence [separator, item value]) more middle rest →
      Series separator item (first :: more) text rest

theorem Repeated.exists_item {item : α → Span} {values : List α} {text rest : List Char}
    (repeated : Repeated item values text rest) {value : α} (member : value ∈ values) :
    ∃ before after, item value before after := by
  induction repeated with
  | nil => cases member
  | cons first _ ih =>
    rcases List.mem_cons.mp member with rfl | member
    · exact ⟨_, _, first⟩
    · exact ih member

theorem Repeated.restrict {item : α → Span} {allowed : α → Prop} {values : List α}
    {text rest : List Char} (repeated : Repeated item values text rest)
    (all : ∀ value ∈ values, allowed value) :
    Repeated (fun value text rest => item value text rest ∧ allowed value) values text rest := by
  induction repeated with
  | nil => exact .nil
  | @cons value more _ _ _ first _ ih =>
    exact .cons ⟨first, all value List.mem_cons_self⟩ (ih fun other member =>
      all other (List.mem_cons_of_mem value member))

theorem Series.ne_nil {separator : Span} {item : α → Span} {values : List α} {text rest : List Char}
    (series : Series separator item values text rest) : values ≠ [] := by
  cases series
  exact List.cons_ne_nil _ _

theorem Series.exists_item {separator : Span} {item : α → Span} {values : List α}
    {text rest : List Char} (series : Series separator item values text rest) {value : α}
    (member : value ∈ values) : ∃ before after, item value before after := by
  obtain ⟨first, more⟩ := series
  rcases List.mem_cons.mp member with rfl | member
  · exact ⟨_, _, first⟩
  · obtain ⟨_, _, _, _, found⟩ := more.exists_item member
    exact ⟨_, _, found⟩

end Combined

/-! The smallest pieces. -/

/-- A word in any letter case that does not go on. -/
def Word (word : String) : Span :=
  fun text rest => ∃ found, text = found ++ rest ∧
    equalFold found word.toList = true ∧ wordEnds found rest = true

def OneOf (words : List String) : Span :=
  fun text rest => ∃ word ∈ words, Word word text rest

def Gap : Span :=
  fun text rest => ∃ blanks, blanks ≠ [] ∧ (∀ c ∈ blanks, isBlank c = true) ∧ text = blanks ++ rest

def Sign (c : Char) : Span :=
  fun text rest => text = c :: rest

/-- One of the forms of a name, in their very letters, that does not go on. -/
def Name (forms : List (List Char)) : Span :=
  fun text rest => ∃ form ∈ forms, text = form ++ rest ∧ wordEnds form rest = true

def Key (entry : TypeEntry) (key : String) : Span :=
  fun text rest => ∃ property ∈ entry.properties, property.key = key ∧ Name property.forms text rest

def Connective : Span := OneOf connectives

def Article : Span := OneOf articles

def Phrase : List String → Span
  | [] => Eq
  | [last] => Word last
  | first :: others => Sequence [Word first, Gap, Phrase others]

def LookupPhrase (lookup : Lookup) : Span :=
  fun text rest => ∃ words, (words, lookup) ∈ lookupPhrases ∧ Phrase words text rest

/-- A text between two equal quotes, or a bare one. -/
inductive ValueText (bare : Span) : Value → Span where
  | literal {quote : Char} {inside rest : List Char} : quote = '"' ∨ quote = '\'' →
      quote ∉ inside →
      ValueText bare (.literal quote (.ofList inside)) (quote :: (inside ++ quote :: rest)) rest
  | bare {read rest : List Char} : read ≠ [] → bare read rest →
      ValueText bare (.bare (.ofList read)) (read ++ rest) rest

/-! Conditions. -/

/-- What stands right before a value: a property, the filler `of`, or a lookup phrase. -/
inductive Cue where
  | property
  | filler
  | lookup
  deriving DecidableEq, Repr

/-- `Bare entry cue read rest` says that `read` may stand bare after `cue` as a value of a condition
on the type, when `rest` follows. -/
abbrev BareRule := TypeEntry → Cue → Span

def anyBare : BareRule :=
  fun _ _ _ _ => True

def Opening : Span :=
  Sequence [Word conditionOpener, Optional (Sequence [Gap, Article]), Gap]

/-- All that stands before the value of a condition and tells its key and its lookup. -/
inductive Introduction (entry : TypeEntry) : Cue → String → Lookup → Span where
  | property {key : String} {text rest : List Char} :
      Sequence [Key entry key, Gap] text rest →
      Introduction entry .property key defaultLookup text rest
  | filler {key : String} {text rest : List Char} :
      Sequence [Key entry key, Gap, Word "of", Gap] text rest →
      Introduction entry .filler key defaultLookup text rest
  | lookup {key : String} {lookup : Lookup} {text rest : List Char} :
      Sequence [Key entry key, Optional (Sequence [Gap, Word "of"]), Gap, LookupPhrase lookup, Gap]
        text rest →
      Introduction entry .lookup key lookup text rest
  /-- The only property of a type need not be named. -/
  | implied {only : PropertyEntry} {lookup : Lookup} {text rest : List Char} :
      entry.properties = [only] → Sequence [LookupPhrase lookup, Gap] text rest →
      Introduction entry .lookup only.key lookup text rest

inductive ClauseText (bare : BareRule) (entry : TypeEntry) : Clause → Span where
  | mk {cue : Cue} {key : String} {lookup : Lookup} {value : Value} {text rest : List Char} :
      Sequence [Optional Opening, Introduction entry cue key lookup,
        ValueText (bare entry cue) value] text rest →
      ClauseText bare entry ⟨key, lookup, value⟩ text rest

def Joint : Span :=
  Sequence [Gap, Connective, Gap]

inductive ClausesText (bare : BareRule) (entry : TypeEntry) : List Clause → Span where
  | none {text : List Char} : ClausesText bare entry [] text text
  | some {clauses : List Clause} {text rest : List Char} :
      Sequence [Gap, Series Joint (ClauseText bare entry) clauses] text rest →
      ClausesText bare entry clauses text rest

/-! Facets. -/

def ListSeparator : Span :=
  Either (Sequence [Optional Gap, Sign ',', Optional Gap]) (Sequence [Gap, Word "and", Gap])

def KeyList (entry : TypeEntry) : List String → Span :=
  Series ListSeparator (Key entry)

/-- `<properties> of|from [the]` and the gap after it; nothing if all of a node is asked for. -/
def ProjectionText (entry : TypeEntry) : Option (List String) → Span
  | none => Eq
  | some keys => Sequence [KeyList entry keys, Gap, OneOf projectionJoiners, Gap,
      Optional (Sequence [Word "the", Gap])]

inductive FacetText (bare : BareRule) (entry : TypeEntry) : Facet → Span where
  | mk {projection : Option (List String)} {clauses : List Clause} {text rest : List Char} :
      Sequence [ProjectionText entry projection, Name entry.forms, ClausesText bare entry clauses]
        text rest →
      FacetText bare entry ⟨entry.id, projection, clauses⟩ text rest

/-! Whole queries over the types of a grammar. -/

section Whole
variable (bare : BareRule) (grammar : Grammar)

def GroupText (facets : List Facet) : Span :=
  fun text rest => ∃ entry ∈ grammar.nodeEntries, Series Joint (FacetText bare entry) facets text rest

def RelationText (relation : TypeId) : Span :=
  fun text rest => ∃ entry ∈ grammar.relationshipEntries, entry.id = relation ∧
    Sequence [Gap, Optional (Sequence [Connective, Gap]), OneOf relationshipOpeners, Gap,
      Name entry.forms, Optional (Sequence [Gap, Article])] text rest

inductive HopText : Hop → Span where
  | mk {relation : TypeId} {targets : List Facet} {text rest : List Char} :
      Sequence [RelationText grammar relation, Gap, GroupText bare grammar targets] text rest →
      HopText ⟨relation, targets⟩ text rest

inductive TreeText : Tree → Span where
  | mk {sources : List Facet} {hops : List Hop} {text rest : List Char} :
      Sequence [GroupText bare grammar sources, Repeated (HopText bare grammar) hops] text rest →
      TreeText ⟨sources, hops⟩ text rest

end Whole

end GraphQuery.Query.Language
