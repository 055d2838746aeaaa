import GraphQuery.Proofs.Outcomes
import GraphQuery.Proofs.Query.Fidelity
import GraphQuery.Proofs.Query.Normalization
import GraphQuery.Proofs.Text.Spacing

/-! Texts that are normalized already.

A second reader goes over what a first one keeps. The two are in the same state all along, but that the second
is still in a word where the first has seen a gap, since its space is written only with the next word. So the
second keeps everything where it stands. What the texts of both readers collapse to is compared alike. -/

set_option autoImplicit false

namespace GraphQuery.Query

open Text

namespace Normalized

def numbered : Nat → List Char → List Placed
  | _, [] => []
  | place, c :: rest => ⟨c, place⟩ :: numbered (place + 1) rest

def said (reader : Reader) (column : Nat) (typed : List Char) : List Char :=
  (keep reader column typed).map (·.char)

section Saying
variable {column place : Nat} {c : Char} {rest typed : List Char} {reader : Reader}

@[simp] theorem said_nil : said reader column [] = [] := by
  simp [said]

theorem said_cons : said reader column (c :: rest) =
    (reader.kept column c).map (·.char) ++ said (reader.next column c rest) (column + 1) rest := by
  rw [said, said, keep_cons, List.map_append]

theorem afterFirst_said :
    Reader.afterFirst c (said reader column rest) = .afterFirst c rest := by
  unfold Reader.afterFirst
  cases opener : isQuote c with
  | false => rfl
  | true =>
    have visible := isWhitespace_of_isQuote opener
    -- No quote is dropped and none is added.
    have same : c ∈ said reader column rest ↔ c ∈ rest := by
      refine ⟨fun member => ?_, fun member => mem_keep_of_mem member visible⟩
      refine (mem_of_mem_keep member).resolve_right ?_
      rintro rfl
      exact absurd opener (by decide)
    simp only [Bool.true_and, List.contains_iff_mem, same]

def Reader.again : Reader → Reader
  | .gap _ => .word
  | reader => reader

@[simp] theorem again_start : Reader.start.again = .start := rfl

@[simp] theorem again_word : Reader.word.again = .word := rfl

@[simp] theorem again_gap {begun : Nat} : (Reader.gap begun).again = .word := rfl

@[simp] theorem again_literal {quote : Char} : (Reader.literal quote).again = .literal quote := rfl

@[simp] theorem again_afterFirst : (Reader.afterFirst c rest).again = .afterFirst c rest := by
  unfold Reader.afterFirst
  split <;> rfl

theorem numbered_append (place : Nat) (text more : List Char) :
    numbered place (text ++ more) = numbered place text ++ numbered (place + text.length) more := by
  induction text generalizing place with
  | nil => rfl
  | cons c rest ih =>
    rw [List.cons_append, numbered, numbered, ih, List.cons_append, List.length_cons]
    congr 3
    omega

theorem keep_again {more : List Char}
    (next : more = said (reader.next column c rest) (column + 1) rest) :
    keep reader.again place ((reader.kept column c).map (·.char) ++ more) =
      numbered place ((reader.kept column c).map (·.char)) ++
        keep (reader.next column c rest).again (place + (reader.kept column c).length) more := by
  have blank : isWhitespace ' ' = true := by decide
  cases reader with
  | literal quote =>
    by_cases closing : c = quote <;> simp [Reader.kept, Reader.next, closing, numbered, keep]
  | start =>
    cases space : isWhitespace c with
    | true => simp [Reader.kept, Reader.next, space, numbered]
    | false =>
      have same : Reader.afterFirst c more = .afterFirst c rest := next ▸ afterFirst_said
      simp [Reader.kept, Reader.next, space, numbered, keep, same]
  | word =>
    cases space : isWhitespace c <;>
      simp [Reader.kept, Reader.next, space, numbered, keep]
  | gap begun =>
    cases space : isWhitespace c with
    | true => simp [Reader.kept, Reader.next, space, numbered]
    | false =>
      have same : Reader.afterFirst c more = .afterFirst c rest := next ▸ afterFirst_said
      simp [Reader.kept, Reader.next, space, numbered, keep, same,
        blank]

theorem keep_said : keep reader.again place (said reader column typed) =
    numbered place (said reader column typed) := by
  induction typed generalizing reader column place with
  | nil =>
    rw [said_nil, keep_nil]
    rfl
  | cons c rest ih => rw [said_cons, keep_again rfl, ih, numbered_append, List.length_map]

end Saying

/-! Both have the same words. -/

/-- How far a text that is collapsed has come in what the reader keeps, and in what it reads. -/
inductive Reader.Abreast : Reader → Spacing → Spacing → Prop
  | start : Abreast .start .start .start
  | word : Abreast .word .word .word
  | gap {begun : Nat} : Abreast (.gap begun) .word .gap
  | literal {quote : Char} {spacing : Spacing} (opener : isQuote quote = true) :
    Abreast (.literal quote) spacing spacing

section Collapsing
variable {column : Nat} {c : Char} {rest typed : List Char} {reader : Reader} {kept read : Spacing}

theorem abreast_afterFirst : (Reader.afterFirst c rest).Abreast .word .word := by
  unfold Reader.afterFirst
  split
  · next opens => exact .literal (Bool.and_eq_true_iff.mp opens).1
  · exact .word

theorem respace_said (abreast : reader.Abreast kept read) :
    respace kept (said reader column typed) = respace read typed := by
  induction typed generalizing reader column kept read with
  | nil => simp [respace]
  | cons c rest ih =>
    have blank : isWhitespace ' ' = true := by decide
    rw [said_cons]
    cases abreast with
    | start =>
      cases space : isWhitespace c with
      | true => simpa [Reader.kept, Reader.next, space, respace] using ih .start
      | false => simpa [Reader.kept, Reader.next, space, respace] using ih abreast_afterFirst
    | word =>
      cases space : isWhitespace c with
      | true => simpa [Reader.kept, Reader.next, space, respace] using ih .gap
      | false => simpa [Reader.kept, Reader.next, space, respace] using ih .word
    | gap =>
      cases space : isWhitespace c with
      | true => simpa [Reader.kept, Reader.next, space, respace] using ih .gap
      | false => simpa [Reader.kept, Reader.next, space, respace, blank] using ih abreast_afterFirst
    | @literal quote _ opener =>
      -- Here `c` is kept in any case, so the two texts go on alike.
      have same : ((Reader.literal quote).next column c rest).Abreast (kept.next c) (kept.next c) := by
        by_cases closing : c = quote
        · have visible := isWhitespace_of_isQuote opener
          have word : kept.next c = .word := by
            cases kept <;> simp [Spacing.next, closing, visible]
          rw [Reader.next, if_pos closing, word]
          exact .word
        · simpa [Reader.next, closing] using Reader.Abreast.literal opener
      simp only [Reader.kept, List.map_cons, List.map_nil, List.cons_append, List.nil_append,
        respace_cons]
      rw [ih same]

def Reader.spacing : Reader → Spacing
  | .start => .start
  | .gap _ => .gap
  | .word | .literal _ => .word

/-- Without quotes all that is done is to collapse the text. -/
theorem said_unquoted (unquoted : ∀ c ∈ typed, isQuote c = false)
    (shut : ∀ quote, reader ≠ .literal quote) :
    said reader column typed = respace reader.spacing typed := by
  induction typed generalizing reader column with
  | nil => simp [respace]
  | cons c rest ih =>
    obtain ⟨plain, later⟩ := List.forall_mem_cons.mp unquoted
    have word : Reader.afterFirst c rest = .word := by
      simp [Reader.afterFirst, plain]
    rw [said_cons]
    cases reader with
    | literal quote => exact absurd rfl (shut quote)
    | start | word | gap =>
      cases space : isWhitespace c <;>
        simp [Reader.kept, Reader.next, space, word, respace, Reader.spacing, ih later]

end Collapsing

/-! What normalizing does to a text that has been normalized. -/

section Texts
variable (query : List Char)

theorem text_eq_said : (ofQuery query).text = said .start 0 query :=
  rfl

theorem placed_text : (ofQuery (ofQuery query).text).placed = numbered 0 (ofQuery query).text := by
  have again : keep Reader.start.again 0 (said .start 0 query) = numbered 0 (said .start 0 query) :=
    keep_said
  exact again

theorem map_char_numbered (place : Nat) (text : List Char) : (numbered place text).map (·.char) = text := by
  induction text generalizing place with
  | nil => rfl
  | cons c rest ih => rw [numbered, List.map_cons, ih]

theorem getElem?_numbered (place index : Nat) (text : List Char) :
    (numbered place text)[index]? = text[index]?.map fun c => ⟨c, place + index⟩ := by
  induction text generalizing place index with
  | nil => simp [numbered]
  | cons c rest ih =>
    cases index with
    | zero => rfl
    | succ index =>
      rw [numbered, List.getElem?_cons_succ, List.getElem?_cons_succ, ih, Nat.add_right_comm]
      rfl

theorem text_text : (ofQuery (ofQuery query).text).text = (ofQuery query).text := by
  rw [text, placed_text, map_char_numbered]

theorem column_text {index : Nat} (inside : index ≤ (ofQuery query).text.length) :
    (ofQuery (ofQuery query).text).column index = index + 1 := by
  have inner : ∀ index, index < (ofQuery query).text.length →
      (ofQuery (ofQuery query).text).column index = index + 1 := fun index less => by
    have here : (ofQuery query).text[index]? = some (ofQuery query).text[index] :=
      List.getElem?_eq_getElem less
    simp [column, placed_text, getElem?_numbered, here]
  rcases Nat.lt_or_eq_of_le inside with less | same
  · exact inner index less
  · -- The end is behind the last character, and no further than the query reaches.
    have bounds := column_le (ofQuery query).text index
    cases index with
    | zero => omega
    | succ index =>
      have last := inner index (by omega)
      have follows : (ofQuery (ofQuery query).text).column index <
          (ofQuery (ofQuery query).text).column (index + 1) :=
        column_lt_column (Nat.lt_succ_self index) (by rw [text_text]; omega)
      omega

theorem collapse_text : collapse (ofQuery query).text = collapse query := by
  rw [collapse_eq_respace, collapse_eq_respace, text_eq_said, respace_said .start]

theorem text_of_unquoted (unquoted : ∀ c ∈ query, isQuote c = false) :
    (ofQuery query).text = collapse query := by
  rw [text_eq_said, collapse_eq_respace, said_unquoted unquoted (by simp)]
  rfl

theorem length_text_le : (ofQuery query).text.length ≤ query.length := by
  rw [text, List.length_map, placed_eq_filterMap]
  simpa using List.length_filterMap_le (keptAt query) (List.range query.length)

end Texts

end Normalized

open Normalized

/-- The text of a query is normalized already, and it collapses to the same as the query. So it has the answer of
the query, at columns that count its own characters. -/
theorem normalized_again (parser : Parser) (query : String) :
    (ofQuery (ofQuery query.toList).text).text = (ofQuery query.toList).text ∧
      (∀ index, index ≤ (ofQuery query.toList).text.length →
        (ofQuery (ofQuery query.toList).text).column index = index + 1) ∧
      collapse (ofQuery query.toList).text = collapse query.toList ∧
      ((∀ c ∈ query.toList, isQuote c = false) →
        (ofQuery query.toList).text = collapse query.toList) ∧
      (query.toList.length ≤ parser.maxLength →
        (∃ plan, parser.parse query = .ok plan ∧
            parser.parse (.ofList (ofQuery query.toList).text) = .ok plan) ∨
          ∃ message index expected, index ≤ (ofQuery query.toList).text.length ∧
            parser.parse query =
              .error (.mismatch message ((ofQuery query.toList).column index) expected) ∧
            parser.parse (.ofList (ofQuery query.toList).text) =
              .error (.mismatch message (index + 1) expected)) := by
  refine ⟨text_text _, fun index inside => column_text _ inside, collapse_text _, text_of_unquoted _,
    fun fits => ?_⟩
  have same : (ofQuery (String.ofList (ofQuery query.toList).text).toList).text =
      (ofQuery query.toList).text := by
    rw [String.toList_ofList, text_text]
  have shorter : (String.ofList (ofQuery query.toList).text).toList.length ≤ parser.maxLength := by
    rw [String.toList_ofList]
    exact (length_text_le _).trans fits
  rcases parser.answers_of_same_text same fits shorter with
    answered | ⟨_, message, index, expected, inside, failed, failed'⟩
  · exact .inl answered
  · rw [String.toList_ofList, column_text _ inside] at failed'
    exact .inr ⟨message, index, expected, inside, failed, failed'⟩

theorem normalized_again_town :
    (∀ c ∈ " Person\twith  name Ada\n".toList, isQuote c = false) ∧
      " Person\twith  name Ada\n".toList.length ≤ Parser.townParser.maxLength ∧
      6 ≤ (ofQuery " Person\twith  name Ada\n".toList).text.length ∧
      (ofQuery " Person\twith  name Ada\n".toList).column 6 = 8 ∧
      (ofQuery (ofQuery " Person\twith  name Ada\n".toList).text).column 6 = 7 ∧
      (ofQuery " Person\twith  name Ada\n".toList).text = "Person with name Ada".toList ∧
      ∃ plan, Parser.townParser.parse " Person\twith  name Ada\n" = .ok plan ∧
        Parser.townParser.parse "Person with name Ada" = .ok plan := by
  have plain : " Person\twith  name Ada\n".toList.any isQuote = false := by decide
  have unquoted : ∀ c ∈ " Person\twith  name Ada\n".toList, isQuote c = false := fun c member => by
    simpa using List.any_eq_false.mp plain c member
  have fits : " Person\twith  name Ada\n".toList.length ≤ Parser.townParser.maxLength := by decide
  have inside : 6 ≤ (ofQuery " Person\twith  name Ada\n".toList).text.length := by decide
  have typed : (ofQuery " Person\twith  name Ada\n".toList).column 6 = 8 := by decide
  obtain ⟨_, columns, _, collapsed, answers⟩ :=
    normalized_again Parser.townParser " Person\twith  name Ada\n"
  have text : (ofQuery " Person\twith  name Ada\n".toList).text = "Person with name Ada".toList := by
    rw [collapsed unquoted]
    decide
  refine ⟨unquoted, fits, inside, typed, columns 6 inside, text, ?_⟩
  obtain ⟨plan, parsed⟩ := Parser.exists_plan
    (show (Parser.townParser.parse " Person\twith  name Ada\n").toOption.isSome = true by decide +kernel)
  rcases answers fits with ⟨plan, same, again⟩ | ⟨message, index, expected, _, failed, _⟩
  · rw [text, String.ofList_toList] at again
    exact ⟨plan, same, again⟩
  · rw [parsed] at failed
    cases failed

end GraphQuery.Query
