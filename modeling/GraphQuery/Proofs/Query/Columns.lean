import GraphQuery.Query.Normalized
import Mathlib.Data.List.Basic

/-! Where the characters of a normalized query stand in the query as typed.

The reader is taken apart into what it keeps for one character and the state behind it. What holds for
every step, with the characters before it, holds for a whole query. -/

set_option autoImplicit false

namespace GraphQuery.Query.Normalized

open Text

def Reader.kept (column : Nat) (c : Char) : Reader → List Placed
  | .literal _ => [⟨c, column⟩]
  | .start | .word => if isWhitespace c then [] else [⟨c, column⟩]
  | .gap begun => if isWhitespace c then [] else [⟨' ', begun⟩, ⟨c, column⟩]

def Reader.next (column : Nat) (c : Char) (rest : List Char) : Reader → Reader
  | .literal quote => if c = quote then .word else .literal quote
  | .start => if isWhitespace c then .start else .afterFirst c rest
  | .word => if isWhitespace c then .gap column else .word
  | .gap begun => if isWhitespace c then .gap begun else .afterFirst c rest

section Steps
variable {column : Nat} {c quote : Char} {rest typed : List Char} {reader : Reader} {placed : Placed}

theorem keep_cons : keep reader column (c :: rest) =
    reader.kept column c ++ keep (reader.next column c rest) (column + 1) rest := by
  cases reader <;> simp only [keep, Reader.kept, Reader.next] <;> split <;> rfl

@[simp] theorem keep_nil : keep reader column [] = [] := by
  cases reader <;> rfl

/-- A literal is opened only by a quote that comes again. -/
theorem afterFirst_eq_literal (opened : Reader.afterFirst c rest = .literal quote) :
    quote = c ∧ isQuote c = true ∧ c ∈ rest := by
  unfold Reader.afterFirst at opened
  split at opened
  · next opens =>
    simp only [Bool.and_eq_true, List.contains_iff_mem] at opens
    exact ⟨(Reader.literal.inj opened).symm, opens⟩
  · cases opened

theorem afterFirst_ne_gap {start : Nat} : Reader.afterFirst c rest ≠ .gap start := by
  unfold Reader.afterFirst
  split <;> simp

theorem isWhitespace_of_isQuote (opener : isQuote c = true) : isWhitespace c = false := by
  simp only [isQuote, Bool.or_eq_true, beq_iff_eq] at opener
  rcases opener with rfl | rfl <;> decide

theorem next_eq_gap {start : Nat} (state : reader.next column c rest = .gap start) :
    isWhitespace c = true ∧ (start = column ∨ reader = .gap start) := by
  cases reader <;> simp only [Reader.next] at state <;> split at state <;>
    simp_all [afterFirst_ne_gap]

theorem next_eq_literal (state : reader.next column c rest = .literal quote)
    (closes : ∀ quote, reader = .literal quote → quote ∈ c :: rest ∧ isWhitespace quote = false) :
    quote ∈ rest ∧ isWhitespace quote = false := by
  have opened : ∀ {c : Char}, Reader.afterFirst c rest = .literal quote →
      quote ∈ rest ∧ isWhitespace quote = false := fun opened => by
    obtain ⟨rfl, opener, again⟩ := afterFirst_eq_literal opened
    exact ⟨again, isWhitespace_of_isQuote opener⟩
  cases reader with
  | start =>
    simp only [Reader.next] at state
    split at state
    · cases state
    · exact opened state
  | word =>
    simp only [Reader.next] at state
    split at state <;> cases state
  | gap start =>
    simp only [Reader.next] at state
    split at state
    · cases state
    · exact opened state
  | literal other =>
    simp only [Reader.next] at state
    split at state
    · cases state
    · next continues =>
      obtain rfl := Reader.literal.inj state
      obtain ⟨member, visible⟩ := closes other rfl
      exact ⟨(List.mem_cons.mp member).resolve_left fun same => continues same.symm, visible⟩

theorem mem_kept (member : placed ∈ reader.kept column c) :
    placed = ⟨c, column⟩ ∨ ∃ start, reader = .gap start ∧ placed = ⟨' ', start⟩ := by
  cases reader with
  | literal quote => exact .inl (List.mem_singleton.mp member)
  | start | word =>
    simp only [Reader.kept] at member
    split at member
    · cases member
    · exact .inl (List.mem_singleton.mp member)
  | gap begun =>
    simp only [Reader.kept] at member
    split at member
    · cases member
    · exact (List.mem_pair.mp member).symm.imp_right fun same => ⟨begun, rfl, same⟩

end Steps

/-! Every character that is kept stands where its column says. -/

/-- The character stands in the query at its column, or is the space for whitespace that begins there. -/
def Stands (query : List Char) (placed : Placed) : Prop :=
  ∃ c, query[placed.column]? = some c ∧
    (placed.char = c ∨ placed.char = ' ' ∧ isWhitespace c = true)

def Reader.Begun (query : List Char) (reader : Reader) : Prop :=
  ∀ start, reader = .gap start → ∃ c, query[start]? = some c ∧ isWhitespace c = true

section Places
variable {before typed query : List Char} {reader : Reader} {placed : Placed}

theorem stands_of_mem_keep (begun : reader.Begun (before ++ typed))
    (member : placed ∈ keep reader before.length typed) : Stands (before ++ typed) placed := by
  induction typed generalizing before reader with
  | nil => simp at member
  | cons c rest ih =>
    have here : (before ++ c :: rest)[before.length]? = some c := by simp
    rw [keep_cons, List.mem_append] at member
    rcases member with now | later
    · rcases mem_kept now with rfl | ⟨start, state, rfl⟩
      · exact ⟨c, here, .inl rfl⟩
      · obtain ⟨d, there, space⟩ := begun start state
        exact ⟨d, there, .inr ⟨rfl, space⟩⟩
    · rw [List.append_cons] at begun here ⊢
      refine ih (fun start state => ?_) (by simpa using later)
      obtain ⟨space, rfl | earlier⟩ := next_eq_gap state
      · exact ⟨c, here, space⟩
      · exact begun start earlier

theorem stands_of_mem (member : placed ∈ (ofQuery query).placed) : Stands query placed :=
  List.nil_append query ▸ stands_of_mem_keep (fun _ state => by cases state) member

/-- What is kept of the rest of a query comes from there, the space of a gap aside. -/
theorem le_column_of_mem_keep {column : Nat} (member : placed ∈ keep reader column typed) :
    column ≤ placed.column ∨ reader = .gap placed.column := by
  induction typed generalizing column reader with
  | nil => simp at member
  | cons c rest ih =>
    rw [keep_cons, List.mem_append] at member
    rcases member with now | later
    · rcases mem_kept now with rfl | ⟨start, state, rfl⟩
      · exact .inl (Nat.le_refl _)
      · exact .inr state
    · rcases ih later with beyond | state
      · exact .inl (by omega)
      · obtain ⟨_, same | earlier⟩ := next_eq_gap state
        · exact .inl (Nat.le_of_eq same.symm)
        · exact .inr earlier

end Places

/-! The last character that is kept is the last one of the query that is no whitespace. -/

/-- The last character kept of a text at `column`, if any, is the last that is no whitespace. -/
def Ends (column : Nat) (typed : List Char) : Option Placed → Prop
  | none => ∀ c ∈ typed, isWhitespace c = true
  | some last => ∃ before c after, typed = before ++ c :: after ∧ isWhitespace c = false ∧
      (∀ d ∈ after, isWhitespace d = true) ∧ last.column = column + before.length

section End
variable {column : Nat} {typed query : List Char} {reader : Reader}

theorem ends_keep
    (closes : ∀ quote, reader = .literal quote → quote ∈ typed ∧ isWhitespace quote = false) :
    Ends column typed (keep reader column typed).getLast? := by
  induction typed generalizing column reader with
  | nil => simp [Ends]
  | cons c rest ih =>
    have later : Ends (column + 1) rest (keep (reader.next column c rest) (column + 1) rest).getLast? :=
      ih fun quote state => next_eq_literal state closes
    rw [keep_cons, List.getLast?_append]
    cases last : (keep (reader.next column c rest) (column + 1) rest).getLast? with
    | some placed =>
      rw [last] at later
      obtain ⟨before, d, after, rfl, visible, spaces, place⟩ := later
      refine ⟨c :: before, d, after, rfl, visible, spaces, ?_⟩
      rw [place, List.length_cons]
      omega
    | none =>
      rw [last] at later
      -- No literal is open any more, so `c` is kept exactly if it is no whitespace.
      have shut : ∀ quote, reader.next column c rest ≠ .literal quote := fun quote state => by
        obtain ⟨member, visible⟩ := next_eq_literal state closes
        exact absurd (later quote member) (by simp [visible])
      have kept : isWhitespace c = true ∧ (reader.kept column c).getLast? = none ∨
          isWhitespace c = false ∧ (reader.kept column c).getLast? = some ⟨c, column⟩ := by
        cases reader with
        | literal quote =>
          have closing : c = quote := by
            by_contra continues
            exact shut quote (if_neg continues)
          exact .inr ⟨closing ▸ (closes quote rfl).2, rfl⟩
        | start | word | gap =>
          cases space : isWhitespace c <;> simp [Reader.kept, space]
      rw [Option.none_or]
      rcases kept with ⟨space, nothing⟩ | ⟨visible, something⟩
      · rw [nothing]
        exact List.forall_mem_cons.mpr ⟨space, later⟩
      · rw [something]
        exact ⟨[], c, rest, rfl, visible, later, rfl⟩

/-- The end of a normalized query that is not empty is right behind the last character that is no
whitespace. -/
theorem exists_end (spoken : (ofQuery query).text ≠ []) :
    ∃ before c after, query = before ++ c :: after ∧ isWhitespace c = false ∧
      (∀ d ∈ after, isWhitespace d = true) ∧ (ofQuery query).endColumn = before.length + 1 := by
  have ends : Ends 0 query (ofQuery query).placed.getLast? := ends_keep fun quote state => by cases state
  have nonempty : (ofQuery query).placed ≠ [] := fun empty => spoken (by rw [text, empty, List.map_nil])
  have last := List.getLast?_eq_some_getLast nonempty
  rw [last] at ends
  obtain ⟨before, c, after, split, visible, spaces, place⟩ := ends
  refine ⟨before, c, after, split, visible, spaces, ?_⟩
  simp only [endColumn, last, place, Nat.zero_add]

end End

/-! Columns of positions. -/

section Positions
variable {query : List Char} {index : Nat}

theorem column_le (query : List Char) (index : Nat) :
    1 ≤ (ofQuery query).column index ∧ (ofQuery query).column index ≤ query.length + 1 := by
  unfold column
  split
  · next placed found =>
    obtain ⟨c, there, _⟩ := stands_of_mem (List.mem_of_getElem? found)
    have inside := (List.getElem?_eq_some_iff.mp there).1
    omega
  · unfold endColumn
    split
    · next last found =>
      obtain ⟨c, there, _⟩ := stands_of_mem (List.mem_of_getLast? found)
      have inside := (List.getElem?_eq_some_iff.mp there).1
      omega
    · omega

theorem exists_typed_of_lt {c : Char} (next : (ofQuery query).text[index]? = some c) :
    ∃ d, query[(ofQuery query).column index - 1]? = some d ∧
      (c = d ∨ c = ' ' ∧ isWhitespace d = true) := by
  rw [text, List.getElem?_map, Option.map_eq_some_iff] at next
  obtain ⟨placed, found, rfl⟩ := next
  obtain ⟨d, there, stands⟩ := stands_of_mem (List.mem_of_getElem? found)
  exact ⟨d, by simpa [column, found] using there, stands⟩

theorem exists_column_end (spoken : (ofQuery query).text ≠ []) :
    ∃ before c after, query = before ++ c :: after ∧ isWhitespace c = false ∧
      (∀ d ∈ after, isWhitespace d = true) ∧
        (ofQuery query).column (ofQuery query).text.length = before.length + 2 := by
  obtain ⟨before, c, after, split, visible, spaces, place⟩ := exists_end spoken
  refine ⟨before, c, after, split, visible, spaces, ?_⟩
  have behind : (ofQuery query).placed[(ofQuery query).text.length]? = none :=
    List.getElem?_eq_none (by simp [text])
  simp only [column, behind, place]

end Positions

end GraphQuery.Query.Normalized
