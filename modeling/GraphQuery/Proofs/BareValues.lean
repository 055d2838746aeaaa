import GraphQuery.Proofs.Parsing
import GraphQuery.Proofs.Query.Stops

/-! How far a bare value goes.

A value is to stop only where the rest of its facet can begin. A condition begins with a lookup phrase only on a
type with a single property, but the lookahead of a value leaves that out. So on other types a value also stops
before a connective and a lookup phrase, from where nothing can go on. -/

set_option autoImplicit false

namespace GraphQuery.Query

open Text Grammar Query.Language Matcher

namespace Language

/-- How a facet of a type goes on behind a connective. A condition begins with a lookup phrase only if there is
one property that it can be about. -/
def Resumption (grammar : Grammar) (entry : TypeEntry) : Span :=
  fun text rest => HopStart grammar text rest ∨ Name entry.forms text rest ∨
    Word conditionOpener text rest ∨ (∃ key, Key entry key text rest) ∨
      entry.onlyProperty?.isSome = true ∧ ∃ lookup, LookupPhrase lookup text rest

/-- A connective and a lookup phrase that no condition on the type begins with. -/
def StrayLookup (entry : TypeEntry) : Span :=
  fun text rest => entry.onlyProperty? = none ∧
    ∃ lookup, Sequence [Gap, Connective, Gap, LookupPhrase lookup] text rest

theorem more_iff {grammar : Grammar} {entry : TypeEntry} {text rest : List Char} :
    Either (ClauseStart entry) (Either (Name entry.forms) (HopStart grammar)) text rest ↔
      Resumption grammar entry text rest ∨
        entry.onlyProperty? = none ∧ ∃ lookup, LookupPhrase lookup text rest := by
  cases single : entry.onlyProperty? <;> simp [Either, ClauseStart, Resumption, single] <;> tauto

/-- The side condition on lookup phrases aside, a facet goes on where a value stops. -/
theorem continuation_iff_onwards {grammar : Grammar} {entry : TypeEntry} {text rest : List Char} :
    Continuation grammar entry text rest ↔
      Onwards grammar (Resumption grammar entry) text rest ∨ StrayLookup entry text rest := by
  constructor
  · rintro ⟨after, gap, hop | ⟨first, connected, next, behind, more⟩⟩
    · exact .inl ⟨after, gap, .inl hop⟩
    · rcases more_iff.mp more with resumed | ⟨several, lookup, phrase⟩
      · exact .inl ⟨after, gap, .inr ⟨first, connected, next, behind, resumed⟩⟩
      · exact .inr ⟨several, lookup, after, gap, first, connected, next, behind, phrase⟩
  · rintro (⟨after, gap, hop | ⟨first, connected, next, behind, resumed⟩⟩ |
      ⟨several, lookup, after, gap, first, connected, next, behind, phrase⟩)
    · exact ⟨after, gap, .inl hop⟩
    · exact ⟨after, gap, .inr ⟨first, connected, next, behind, more_iff.mpr (.inl resumed)⟩⟩
    · exact ⟨after, gap, .inr ⟨first, connected, next, behind,
        more_iff.mpr (.inr ⟨several, lookup, phrase⟩)⟩⟩

end Language

def resumes (grammar : Grammar) (entry : TypeEntry) (text : List Char) : Bool :=
  (relationshipStart grammar).accepts text
    || (typeName entry).accepts text
    || (word conditionOpener).accepts text
    || (property entry).accepts text
    || (entry.onlyProperty?.isSome && lookup.accepts text)

section Worded
variable {grammar : Grammar} {entry : TypeEntry} {text : List Char} (worded : Worded grammar entry)
include worded

theorem resumes_iff :
    resumes grammar entry text = true ↔ Starts (Resumption grammar entry) text := by
  simp only [resumes, Bool.or_eq_true, Bool.and_eq_true, word_accepts_iff, property_accepts_iff,
    lookup_accepts_iff, typeName_accepts_iff, relationshipStart_accepts_iff worded, Starts, Resumption,
    exists_or, exists_and_left, or_assoc]

theorem stopsBefore_resumes_iff : stopsBefore grammar (resumes grammar entry) text = true ↔
    Starts (Onwards grammar (Resumption grammar entry)) text :=
  stopsBefore_iff worded (resumes_iff worded) fun ⟨rest, resumed⟩ =>
    solid_of_more worded ⟨rest, more_iff.mpr (.inl resumed)⟩

end Worded

/-- A bare value stops where the text ends, or at the first space at which a hop follows, or a connective and
then more of its facet. It also stops before a connective and a lookup phrase that cannot begin a condition
on the type. -/
theorem stops_of_bare_read {schema : Schema} {grammar : Grammar} {entry : TypeEntry}
    {text rest : List Char} {said : String}
    (assembled : Grammar.ofSchema schema = .ok grammar) (member : entry ∈ grammar.nodeEntries)
    (read : (value grammar entry).read? text = some (.bare said, rest)) :
    text = said.toList ++ rest ∧
      (rest = [] ∨ rest.head? = some ' ' ∧
        (Starts (Onwards grammar (Resumption grammar entry)) rest ∨ Starts (StrayLookup entry) rest)) ∧
      ∀ before after, said.toList = before ++ ' ' :: after →
        ¬ Starts (Onwards grammar (Resumption grammar entry)) (' ' :: after ++ rest) ∧
          ¬ Starts (StrayLookup entry) (' ' :: after ++ rest) := by
  obtain ⟨valid, rfl⟩ := Grammar.ofSchema_eq_ok.mp assembled
  have stops : ∀ {text}, endsValue (ofTypes schema) entry text = true ↔
      Starts (Onwards (ofTypes schema) (Resumption (ofTypes schema) entry)) text ∨
        Starts (StrayLookup entry) text := by
    intro text
    rw [endsValue_iff (worded_of_valid valid member)]
    simp only [Starts, continuation_iff_onwards, exists_or]
  simp only [value, read?_piece, Option.orElse_eq_orElse, Option.orElse_eq_or,
    Option.or_eq_some_iff] at read
  obtain literal | ⟨_, bare⟩ := read
  · -- A literal is no bare value.
    have quoted : ValueText (fun _ _ => False) (.bare said) text rest := literal_of_read literal
    cases quoted
    contradiction
  · unfold readBare? at bare
    split at bare
    · cases bare
    · next taken after _ split =>
      simp only [Option.some.injEq, Prod.mk.injEq, Value.bare.injEq] at bare
      obtain ⟨rfl, rfl⟩ := bare
      obtain ⟨whole, unbroken, bounded⟩ := stops_of_splitAtStop split
      rw [String.toList_ofList]
      refine ⟨whole, bounded.imp_right (And.imp_right stops.mp), fun before after same => ?_⟩
      have goes := unbroken before after same
      rwa [Bool.eq_false_iff, ne_eq, stops, not_or] at goes

theorem stops_of_bare_read_town :
    Grammar.ofSchema Parser.townSchema = .ok (ofTypes Parser.townSchema) ∧
      ∃ entry ∈ (ofTypes Parser.townSchema).nodeEntries,
        (value (ofTypes Parser.townSchema) entry).read? "Ada or Bob and age 3".toList =
          some (.bare "Ada or Bob", " and age 3".toList) ∧
        (Starts (Onwards (ofTypes Parser.townSchema) (Resumption (ofTypes Parser.townSchema) entry))
            " and age 3".toList ∨
          Starts (StrayLookup entry) " and age 3".toList) := by
  have assembled : Grammar.ofSchema Parser.townSchema = .ok (ofTypes Parser.townSchema) :=
    Grammar.ofSchema_eq_ok.mpr ⟨by decide +kernel, rfl⟩
  obtain ⟨entry, member, read⟩ : ∃ entry ∈ (ofTypes Parser.townSchema).nodeEntries,
      (value (ofTypes Parser.townSchema) entry).read? "Ada or Bob and age 3".toList =
        some (.bare "Ada or Bob", " and age 3".toList) := by
    decide +kernel
  obtain ⟨_, bounded, _⟩ := stops_of_bare_read assembled member read
  exact ⟨assembled, entry, member, read, (bounded.resolve_left (by decide)).2⟩

/-- No condition on people can begin with `less than`, but the name stops before it. -/
theorem exists_early_stop :
    Parser.ofSchema Parser.townSchema Parser.defaultMaxLength = .ok Parser.townParser ∧
      (∃ entry ∈ Parser.townParser.grammar.nodeEntries, entry.onlyProperty? = none ∧
        (value Parser.townParser.grammar entry).read? "more or less than human".toList =
          some (.bare "more", " or less than human".toList) ∧
        ¬ Starts (Onwards Parser.townParser.grammar (Resumption Parser.townParser.grammar entry))
          " or less than human".toList) ∧
      Parser.townParser.parse "Person with name more or less than human" =
        .error (.mismatch ("unexpected 'less than human', expected one of: " ++
            "'with', \"name\", \"age\", \"Person\", 'that', 'who'") 26
          ["'with'", "\"name\"", "\"age\"", "\"Person\"", "'that'", "'who'"]) := by
  obtain ⟨entry, member, several, read, goes⟩ : ∃ entry ∈ (ofTypes Parser.townSchema).nodeEntries,
      entry.onlyProperty? = none ∧
        (value (ofTypes Parser.townSchema) entry).read? "more or less than human".toList =
          some (.bare "more", " or less than human".toList) ∧
        ¬ stopsBefore (ofTypes Parser.townSchema) (resumes (ofTypes Parser.townSchema) entry)
          " or less than human".toList = true := by
    decide +kernel
  have worded : Worded (ofTypes Parser.townSchema) entry := worded_of_valid (by decide +kernel) member
  exact ⟨Parser.ofSchema_town,
    ⟨entry, member, several, read, goes ∘ (stopsBefore_resumes_iff worded).mpr⟩, by decide +kernel⟩

end GraphQuery.Query
