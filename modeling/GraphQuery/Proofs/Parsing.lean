import GraphQuery.Proofs.Plan.Reduction
import GraphQuery.Proofs.Query.Soundness

/-! What parsers answer.

A query has a plan exactly if it fits, and its normalized text is empty or is read as a tree that has
that plan. Hence every plan comes from a sentence of the language. -/

set_option autoImplicit false

namespace GraphQuery.Parser

open Query Query.Language Matcher

/-! A tree that was read names types of its grammar only, so it has a plan. -/

theorem isSome_entry {grammar : Grammar} (kind : Kind) {entry : Grammar.TypeEntry}
    (member : entry ∈ grammar.entries kind) : (grammar.entry? kind entry.id).isSome := by
  rw [Grammar.entry?, List.find?_isSome]
  exact ⟨entry, member, by simp⟩

theorem declared_of_groupText {bare : BareRule} {grammar : Grammar} {facets : List Facet}
    {text rest : List Char} (said : GroupText bare grammar facets text rest) :
    Plan.Declared grammar facets := by
  obtain ⟨entry, member, series⟩ := said
  intro facet inside
  obtain ⟨_, _, ⟨_⟩⟩ := series.exists_item inside
  exact isSome_entry .node member

theorem exists_ofTree_of_treeText {bare : BareRule} {grammar : Grammar} {found : Tree}
    {text rest : List Char} (labels : Labels) (said : TreeText bare grammar found text rest) :
    ∃ plan after, Plan.ofTree grammar found labels = .ok (plan, after) := by
  obtain ⟨_, sources, hops⟩ := said
  refine Plan.exists_ofTree (declared_of_groupText sources) fun hop member => ?_
  obtain ⟨_, _, _, ⟨entry, known, rfl, _⟩, _, _, targets⟩ := hops.exists_item member
  exact ⟨isSome_entry .relationship known, declared_of_groupText targets⟩

/-! Answers. -/

theorem parseFrom_eq_ok {parser : Parser} {labels after : Labels} {query : String} {plan : Plan} :
    parser.parseFrom labels query = (.ok plan, after) ↔
      query.toList.length ≤ parser.maxLength ∧
        ((Normalized.ofQuery query.toList).text = [] ∧ plan = ∅ ∧ after = labels ∨
          (Normalized.ofQuery query.toList).text ≠ [] ∧
            ∃ found,
              (tree parser.grammar).read? (Normalized.ofQuery query.toList).text = some (found, []) ∧
                Plan.ofTree parser.grammar found labels = .ok (plan, after)) := by
  unfold parseFrom
  by_cases long : parser.maxLength < query.toList.length
  · simp [long, Nat.not_le.mpr long]
  rw [if_neg long, parseNormalized]
  by_cases empty : (Normalized.ofQuery query.toList).text = []
  · simp [empty, Nat.not_lt.mp long, eq_comm]
  simp only [empty, Nat.not_lt.mp long, false_and, false_or, true_and, ne_eq, not_false_eq_true]
  cases outcome : (tree parser.grammar (Normalized.ofQuery query.toList).text).result with
  | none => simp [read?, outcome]
  | some reading =>
    obtain ⟨found, rest⟩ := reading
    obtain ⟨_, rfl⟩ := tree_of_read (show (tree parser.grammar).read? _ = some (found, rest) from outcome)
    cases reduced : Plan.ofTree parser.grammar found labels with
    | error => simp [read?, outcome, reduced]
    | ok => simp [read?, outcome, reduced, Prod.ext_iff]

theorem exists_parseFrom_iff {parser : Parser} {query : String} {plan : Plan} :
    parser.parse query = .ok plan ↔ ∃ after, parser.parseFrom .fresh query = (.ok plan, after) := by
  simp [parse, Prod.ext_iff]

theorem parse_eq_ok {parser : Parser} {query : String} {plan : Plan} :
    parser.parse query = .ok plan ↔
      query.toList.length ≤ parser.maxLength ∧
        ((Normalized.ofQuery query.toList).text = [] ∧ plan = ∅ ∨
          (Normalized.ofQuery query.toList).text ≠ [] ∧
            ∃ found labels,
              (tree parser.grammar).read? (Normalized.ofQuery query.toList).text = some (found, []) ∧
                Plan.ofTree parser.grammar found .fresh = .ok (plan, labels)) := by
  simp only [exists_parseFrom_iff, parseFrom_eq_ok]
  constructor
  · rintro ⟨after, fits, ⟨empty, same, _⟩ | ⟨spoken, found, read, reduced⟩⟩
    · exact ⟨fits, .inl ⟨empty, same⟩⟩
    · exact ⟨fits, .inr ⟨spoken, found, after, read, reduced⟩⟩
  · rintro ⟨fits, ⟨empty, same⟩ | ⟨spoken, found, after, read, reduced⟩⟩
    · exact ⟨.fresh, fits, .inl ⟨empty, same, rfl⟩⟩
    · exact ⟨after, fits, .inr ⟨spoken, found, read, reduced⟩⟩

def furthest (parser : Parser) (text : List Char) : Furthest :=
  .ofLog text (tree parser.grammar text).log

theorem parse_eq_mismatch {parser : Parser} {query message : String} {column : Nat}
    {expected : List String} :
    parser.parse query = .error (.mismatch message column expected) ↔
      query.toList.length ≤ parser.maxLength ∧
        (Normalized.ofQuery query.toList).text ≠ [] ∧
          (tree parser.grammar).read? (Normalized.ofQuery query.toList).text = none ∧
            (parser.furthest (Normalized.ofQuery query.toList).text).failure
              (.ofQuery query.toList) = .mismatch message column expected := by
  unfold parse parseFrom
  by_cases long : parser.maxLength < query.toList.length
  · simp [long, Nat.not_le.mpr long]
  rw [if_neg long, parseNormalized]
  by_cases empty : (Normalized.ofQuery query.toList).text = []
  · simp [empty]
  simp only [empty, Nat.not_lt.mp long, if_false, true_and, ne_eq, not_false_eq_true]
  cases outcome : (tree parser.grammar (Normalized.ofQuery query.toList).text).result with
  | none => simp [read?, outcome, furthest]
  | some reading =>
    obtain ⟨found, rest⟩ := reading
    obtain ⟨said, _⟩ := tree_of_read (show (tree parser.grammar).read? _ = some (found, rest) from outcome)
    obtain ⟨plan, after, reduced⟩ := exists_ofTree_of_treeText .fresh said
    simp [read?, outcome, reduced]

/-- A query fits or is too long, and one that fits has a plan or is refused where it does not match.
Labels are taken for plans only. -/
theorem parseFrom_cases (parser : Parser) (labels : Labels) (query : String) :
    parser.maxLength < query.toList.length ∧
        parser.parseFrom labels query =
          (.error (.tooLong query.toList.length parser.maxLength), labels) ∨
      query.toList.length ≤ parser.maxLength ∧
        ((∃ text column expected,
            parser.parseFrom labels query = (.error (.mismatch text column expected), labels)) ∨
          ∃ plan after, parser.parseFrom labels query = (.ok plan, after)) := by
  unfold parseFrom
  by_cases long : parser.maxLength < query.toList.length
  · exact .inl ⟨long, if_pos long⟩
  refine .inr ⟨Nat.not_lt.mp long, ?_⟩
  rw [if_neg long, parseNormalized]
  by_cases empty : (Normalized.ofQuery query.toList).text = []
  · exact .inr ⟨∅, labels, if_pos empty⟩
  rw [if_neg empty]
  cases outcome : (tree parser.grammar (Normalized.ofQuery query.toList).text).result with
  | none =>
    simp only [outcome]
    exact .inl ⟨_, _, _, rfl⟩
  | some reading =>
    obtain ⟨found, rest⟩ := reading
    -- Every tree that is read has a plan.
    obtain ⟨said, _⟩ := tree_of_read (show (tree parser.grammar).read? _ = some (found, rest) from outcome)
    obtain ⟨plan, after, reduced⟩ := exists_ofTree_of_treeText labels said
    refine .inr ⟨plan, after, ?_⟩
    simp only [outcome, reduced]

/-- Every plan is that of a tree which the whole normalized query spells out. -/
theorem exists_tree_of_parse {schema : Schema} {maxLength : Nat} {parser : Parser} {query : String}
    {plan : Plan} (assembled : ofSchema schema maxLength = .ok parser)
    (parsed : parser.parse query = .ok plan)
    (spoken : (Normalized.ofQuery query.toList).text ≠ []) :
    ∃ tree labels,
      TreeText anyBare (Grammar.ofTypes schema) tree (Normalized.ofQuery query.toList).text [] ∧
        Plan.ofTree (Grammar.ofTypes schema) tree .fresh = .ok (plan, labels) := by
  obtain ⟨_, rfl⟩ := ofSchema_eq_ok.mp assembled
  obtain ⟨_, ⟨empty, _⟩ | ⟨_, found, labels, read, reduced⟩⟩ := parse_eq_ok.mp parsed
  · exact absurd empty spoken
  · exact ⟨found, labels, (tree_of_read read).1, reduced⟩

def townSchema : Schema where
  nodeTypes :=
    [{ id := 1, name := "Person", pluralName := some "People", properties := [⟨"name"⟩, ⟨"age"⟩] },
     { id := 2, name := "City", pluralName := some "Cities", properties := [⟨"name"⟩] }]
  relationshipTypes :=
    [{ id := 1, name := "likes", source := 1, target := 1 },
     { id := 2, name := "lives in", source := 1, target := 2 }]

def townParser : Parser where
  grammar := .ofTypes townSchema
  maxLength := defaultMaxLength

theorem eq_ok_of_toOption {ε α : Type} {outcome : Except ε α} {value : α}
    (found : outcome.toOption = some value) : outcome = .ok value :=
  toOption_eq_some.mp found

theorem exists_plan {parser : Parser} {query : String}
    (parsed : (parser.parse query).toOption.isSome = true) : ∃ plan, parser.parse query = .ok plan := by
  obtain ⟨plan, found⟩ := Option.isSome_iff_exists.mp parsed
  exact ⟨plan, eq_ok_of_toOption found⟩

theorem ofSchema_town : ofSchema townSchema defaultMaxLength = .ok townParser :=
  eq_ok_of_toOption (by decide +kernel)

theorem exists_tree_of_parse_town :
    ∃ plan, townParser.parse "name of People  and Person with age 3 who lives in a City" = .ok plan ∧
      ∃ tree labels,
        TreeText anyBare (Grammar.ofTypes townSchema) tree
          (Normalized.ofQuery
            "name of People  and Person with age 3 who lives in a City".toList).text [] ∧
          Plan.ofTree (Grammar.ofTypes townSchema) tree .fresh = .ok (plan, labels) := by
  obtain ⟨plan, parsed⟩ := exists_plan
    (show (townParser.parse
      "name of People  and Person with age 3 who lives in a City").toOption.isSome = true by
        decide +kernel)
  exact ⟨plan, parsed, exists_tree_of_parse ofSchema_town parsed (by decide +kernel)⟩

end GraphQuery.Parser
