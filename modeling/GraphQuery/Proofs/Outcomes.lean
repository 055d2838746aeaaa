import GraphQuery.Proofs.Parsing

/-! What can come of a schema and of a query.

A schema is refused for the flaw that its validation finds, or has a grammar in which every declared
id has the entry of its one type. A query over such a grammar is too long, is refused where it does not
match, or has a plan. Faults of a grammar never show. -/

set_option autoImplicit false

namespace GraphQuery

open Grammar Schema Query.Normalized

/-- An id has the entry of its type if it is declared, which is then done once, and has none otherwise. -/
theorem Grammar.entry_cases {schema : Schema} (valid : schema.validate = .ok ()) (kind : Kind)
    (id : TypeId) :
    (∃ type, (schema.types kind).filter (·.id == id) = [type] ∧
        Grammar.entry? (ofTypes schema) kind id = some (.ofType kind type)) ∨
      (schema.types kind).filter (·.id == id) = [] ∧ Grammar.entry? (ofTypes schema) kind id = none := by
  rw [entryOf_ofTypes]
  have once := length_filter_id_le_one valid kind id
  cases declared : (schema.types kind).filter (·.id == id) with
  | nil => exact .inr ⟨rfl, rfl⟩
  | cons type others =>
    rw [declared, List.length_cons] at once
    obtain rfl := List.length_eq_zero_iff.mp (show others.length = 0 by omega)
    exact .inl ⟨type, rfl, rfl⟩

theorem Parser.parse_cases (parser : Parser) (query : String) :
    if parser.maxLength < query.toList.length then
      parser.parse query = .error (.tooLong query.toList.length parser.maxLength)
    else
      (∃ plan, parser.parse query = .ok plan) ∨
        ∃ text column expected, parser.parse query = .error (.mismatch text column expected) := by
  unfold Parser.parse
  rcases parser.parseFrom_cases .fresh query with
    ⟨long, answer⟩ | ⟨fits, ⟨text, column, expected, answer⟩ | ⟨plan, after, answer⟩⟩
  · rw [if_pos long, answer]
  · rw [if_neg (Nat.not_lt.mpr fits), answer]
    exact .inr ⟨text, column, expected, rfl⟩
  · rw [if_neg (Nat.not_lt.mpr fits), answer]
    exact .inl ⟨plan, rfl⟩

/-- Queries that are normalized to the same text have the same plan, or the same mismatch, each at a column of
its own. -/
theorem Parser.answers_of_same_text (parser : Parser) {query other : String}
    (same : (ofQuery other.toList).text = (ofQuery query.toList).text)
    (fits : query.toList.length ≤ parser.maxLength) (otherFits : other.toList.length ≤ parser.maxLength) :
    (∃ plan, parser.parse query = .ok plan ∧ parser.parse other = .ok plan) ∨
      (ofQuery query.toList).text ≠ [] ∧
        ∃ message index expected, index ≤ (ofQuery query.toList).text.length ∧
          parser.parse query = .error (.mismatch message ((ofQuery query.toList).column index) expected) ∧
          parser.parse other = .error (.mismatch message ((ofQuery other.toList).column index) expected) := by
  have answer := parser.parse_cases query
  rw [if_neg (Nat.not_lt.mpr fits)] at answer
  rcases answer with ⟨plan, parsed⟩ | ⟨message, column, expected, failed⟩
  · refine .inl ⟨plan, parsed, ?_⟩
    rw [Parser.parse_eq_ok] at parsed ⊢
    rw [same]
    exact ⟨otherFits, parsed.2⟩
  · obtain ⟨_, spoken, unread, failure⟩ := Parser.parse_eq_mismatch.mp failed
    obtain ⟨rfl, rfl, rfl⟩ := Failure.mismatch.inj failure
    refine .inr ⟨spoken, _, _, _, Nat.sub_le _ _, failed, Parser.parse_eq_mismatch.mpr ?_⟩
    rw [same]
    refine ⟨otherFits, spoken, unread, ?_⟩
    rw [Query.Furthest.failure, same]

/-- A schema with a flaw is refused for that flaw. From any other one comes a grammar that finds each
declared type, and no other, by its id, and a parser for every limit. Its answers are plans, except for
queries beyond the limit and queries that do not match. -/
theorem outcomes_of_schema (schema : Schema) (maxLength : Nat) :
    match schema.validate with
    | .error flaw =>
      Grammar.ofSchema schema = .error (.inconsistentSchema flaw.message) ∧
        Parser.ofSchema schema maxLength = .error (.inconsistentSchema flaw.message)
    | .ok () =>
      ∃ grammar parser, Grammar.ofSchema schema = .ok grammar ∧
        Parser.ofSchema schema maxLength = .ok parser ∧
        (∀ kind id,
          (∃ type, (schema.types kind).filter (·.id == id) = [type] ∧
              grammar.entry? kind id = some (.ofType kind type)) ∨
            (schema.types kind).filter (·.id == id) = [] ∧ grammar.entry? kind id = none) ∧
        ∀ query,
          if maxLength < query.toList.length then
            parser.parse query = .error (.tooLong query.toList.length maxLength)
          else
            (∃ plan, parser.parse query = .ok plan) ∨
              ∃ text column expected, parser.parse query = .error (.mismatch text column expected) := by
  cases valid : schema.validate with
  | error flaw =>
    have refused := ofSchema_eq_error_of_validate valid
    refine ⟨refused, ?_⟩
    rw [Parser.ofSchema, refused]
    rfl
  | ok =>
    refine ⟨ofTypes schema, ⟨ofTypes schema, maxLength⟩, Grammar.ofSchema_eq_ok.mpr ⟨valid, rfl⟩,
      Parser.ofSchema_eq_ok.mpr ⟨valid, rfl⟩, entry_cases valid, ?_⟩
    exact Parser.parse_cases ⟨ofTypes schema, maxLength⟩

end GraphQuery
