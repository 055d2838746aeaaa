import GraphQuery.Proofs.Parsing
import GraphQuery.Proofs.Query.Columns
import GraphQuery.Proofs.Query.Furthest
import GraphQuery.Proofs.Query.Reports

/-! What a refused query is told.

The failure is about the furthest place at which something was expected: it names that place by its column
in the query as typed, shows the text from there on and lists what was expected there. -/

set_option autoImplicit false

namespace GraphQuery.Parser

open Text Query Query.Normalized Query.Matcher

section Furthest
variable {parser : Parser} {text : List Char}

theorem sums_furthest : Furthest.Sums text (tree parser.grammar text).log (parser.furthest text) :=
  Furthest.sums_ofLog text _

theorem suffix_furthest : (parser.furthest text).rest <:+ text := by
  rcases sums_furthest.reached with same | ⟨what, member⟩
  · exact same ▸ List.suffix_rfl
  · exact forward_tree.log member

end Furthest

/-- The furthest place reached in a query. Nothing was expected beyond it, nor accepted, but for the words
that open a condition on a type without properties. -/
structure Reaches (parser : Parser) (query : String) (rest : List Char) : Prop where
  within : rest <:+ (ofQuery query.toList).text
  reached : rest = (ofQuery query.toList).text ∨
    ∃ what, .expected rest what ∈ (tree parser.grammar (ofQuery query.toList).text).log
  bound : ∀ {place what}, .expected place what ∈ (tree parser.grammar (ofQuery query.toList).text).log →
    rest.length ≤ place.length
  covered : ∀ {place}, .accepted place ∈ (tree parser.grammar (ofQuery query.toList).text).log →
    rest.length ≤ place.length ∨ Unanswered parser.grammar (ofQuery query.toList).text place

/-- The column of a mismatch is that of the furthest place reached. -/
theorem reached_of_mismatch {parser : Parser} {query message : String} {column : Nat}
    {expected : List String} (refused : parser.parse query = .error (.mismatch message column expected)) :
    ∃ rest, parser.Reaches query rest ∧
      column = (ofQuery query.toList).column ((ofQuery query.toList).text.length - rest.length) := by
  obtain ⟨_, _, unread, failure⟩ := parse_eq_mismatch.mp refused
  obtain ⟨_, rfl, _⟩ := Failure.mismatch.inj failure
  refine ⟨_, ⟨suffix_furthest, sums_furthest.reached, sums_furthest.bound, fun member => ?_⟩, rfl⟩
  refine (reported_of_accepted unread member).imp_left ?_
  rintro ⟨there, what, logged, further⟩
  exact Nat.le_trans (sums_furthest.bound logged) further

theorem reached_of_mismatch_town :
    townParser.parse "Person with  age" =
        .error (.mismatch "unexpected end of query, expected one of: whitespace" 17 ["whitespace"]) ∧
      ∃ rest, townParser.Reaches "Person with  age" rest ∧
        17 = (ofQuery "Person with  age".toList).column
          ((ofQuery "Person with  age".toList).text.length - rest.length) := by
  have refused : townParser.parse "Person with  age" =
      .error (.mismatch "unexpected end of query, expected one of: whitespace" 17 ["whitespace"]) := by
    decide +kernel
  exact ⟨refused, reached_of_mismatch refused⟩

def hermitSchema : Schema where
  nodeTypes := [{ id := 1, name := "Person" }]

def hermitParser : Parser where
  grammar := .ofTypes hermitSchema
  maxLength := defaultMaxLength

/-- After `with a` nothing is expected of a type without properties. So the failure asks for another article
in column 13, although the one that stands there was accepted, and all else up to the `x` in column 15. -/
theorem exists_accepted_beyond :
    ofSchema hermitSchema defaultMaxLength = .ok hermitParser ∧
      hermitParser.parse "Person with a x" =
        .error (.mismatch "unexpected 'a x', expected one of: 'an'" 13 ["'an'"]) ∧
      .accepted ['x'] ∈ (tree hermitParser.grammar (ofQuery "Person with a x".toList).text).log ∧
      (ofQuery "Person with a x".toList).column
        ((ofQuery "Person with a x".toList).text.length - ['x'].length) = 15 :=
  ⟨eq_ok_of_toOption (by decide +kernel), by decide +kernel, by decide +kernel, by decide +kernel⟩

/-- What the failure of a query says: where in the query the rest begins that does not match, and what
was found and expected there. -/
structure Describes (query : String) (rest : List Char) (message : String) (column : Nat)
    (expected : List String) : Prop where
  within : rest <:+ (ofQuery query.toList).text
  place : column = (ofQuery query.toList).column ((ofQuery query.toList).text.length - rest.length)
  /-- The rest begins in this column, its first space with any whitespace. -/
  typed : ∀ {c more}, rest = c :: more → ∃ d, query.toList[column - 1]? = some d ∧
    (c = d ∨ c = ' ' ∧ isWhitespace d = true)
  /-- Where nothing is left, the column is the one after the last character that is no whitespace. -/
  ended : rest = [] → ∃ before c after, query.toList = before ++ c :: after ∧ isWhitespace c = false ∧
    (∀ d ∈ after, isWhitespace d = true) ∧ column = before.length + 2
  said : message = "unexpected " ++
    (if rest = [] then "end of query" else "'" ++ .ofList (rest.take 24) ++ "'") ++
    (if expected = [] then "" else ", expected one of: " ++ ", ".intercalate expected)

theorem describes_of_suffix {query : String} (spoken : (ofQuery query.toList).text ≠ [])
    {furthest : Furthest} (within : furthest.rest <:+ (ofQuery query.toList).text) :
    Describes query furthest.rest furthest.message
      ((ofQuery query.toList).column ((ofQuery query.toList).text.length - furthest.rest.length))
      (furthest.expected.map (·.describe)) where
  within := within
  place := rfl
  typed {c more} begins := by
    obtain ⟨before, whole⟩ := within
    refine exists_typed_of_lt ?_
    rw [← whole, begins]
    simp
  ended nothing := by
    rw [nothing]
    exact exists_column_end spoken
  said := by
    simp only [Furthest.message, Furthest.found, Furthest.snippetLength, List.map_eq_nil_iff]
    split <;> simp [String.append_assoc]

/-- A failure points into the query as typed and lists each expectation once. It lists none only if there
are no node types that a query could be about. -/
theorem describes_of_mismatch {schema : Schema} {maxLength : Nat} {parser : Parser}
    {query message : String} {column : Nat} {expected : List String}
    (assembled : ofSchema schema maxLength = .ok parser)
    (refused : parser.parse query = .error (.mismatch message column expected)) :
    expected.Nodup ∧ (expected = [] ↔ schema.nodeTypes = []) ∧
      1 ≤ column ∧ column ≤ query.toList.length + 1 ∧
      ∃ rest, Describes query rest message column expected := by
  obtain ⟨_, rfl⟩ := ofSchema_eq_ok.mp assembled
  obtain ⟨_, spoken, unread, failure⟩ := parse_eq_mismatch.mp refused
  obtain ⟨rfl, rfl, rfl⟩ := Failure.mismatch.inj failure
  have sums : Furthest.Sums (ofQuery query.toList).text _
      (furthest ⟨.ofTypes schema, maxLength⟩ (ofQuery query.toList).text) := sums_furthest
  have silent := sums.expected_eq_nil fun event logged => forward_tree.log logged
  have speaks := expected_iff_nonempty unread
  obtain ⟨first, last⟩ := column_le query.toList
    ((ofQuery query.toList).text.length -
      (furthest ⟨.ofTypes schema, maxLength⟩ (ofQuery query.toList).text).rest.length)
  refine ⟨sums.distinct.map Expectation.describe_injective, ?_, first, last, _,
    describes_of_suffix spoken suffix_furthest⟩
  rw [List.map_eq_nil_iff, silent, ← not_iff_not]
  simpa [Grammar.ofTypes] using speaks

theorem describes_of_mismatch_town :
    ofSchema townSchema defaultMaxLength = .ok townParser ∧
      townParser.parse "Person  who x " =
        .error (.mismatch "unexpected 'x', expected one of: \"likes\", \"lives in\"" 13
          ["\"likes\"", "\"lives in\""]) ∧
      ∃ rest, Describes "Person  who x " rest
        "unexpected 'x', expected one of: \"likes\", \"lives in\"" 13
        ["\"likes\"", "\"lives in\""] := by
  have refused : townParser.parse "Person  who x " =
      .error (.mismatch "unexpected 'x', expected one of: \"likes\", \"lives in\"" 13
        ["\"likes\"", "\"lives in\""]) := by
    decide +kernel
  exact ⟨ofSchema_town, refused, (describes_of_mismatch ofSchema_town refused).2.2.2.2⟩

end GraphQuery.Parser
