import GraphQuery.Query.Normalized
import Mathlib.Data.List.Infix

/-! What the characters of a normalized query stand for in the query as typed.

One lemma for each state of the reader says where the next character that is kept comes from. -/

set_option autoImplicit false

namespace GraphQuery.Query.Normalized

open Text

/-- A place of the query as typed, and the text that a reader in the given state keeps from there on. -/
def Upcoming (query : List Char) (reader : Reader) (text : List Char) : Prop :=
  ∃ column typed, typed <:+ query ∧ (keep reader column typed).map (·.char) = text

theorem upcoming_text (query : List Char) : Upcoming query .start (ofQuery query).text :=
  ⟨0, query, List.suffix_rfl, rfl⟩

theorem Upcoming.mono {query larger text : List Char} {reader : Reader}
    (upcoming : Upcoming query reader text) (suffix : query <:+ larger) :
    Upcoming larger reader text := by
  obtain ⟨column, typed, inside, kept⟩ := upcoming
  exact ⟨column, typed, inside.trans suffix, kept⟩

section
variable {column start : Nat} {c : Char} {typed text : List Char}

theorem mem_of_mem_keep {reader : Reader} (member : c ∈ (keep reader column typed).map (·.char)) :
    c ∈ typed ∨ c = ' ' := by
  induction typed generalizing reader column with
  | nil => simp [keep] at member
  | cons d rest ih =>
    have later : ∀ {reader : Reader} {column : Nat},
        c ∈ (keep reader column rest).map (·.char) → c ∈ d :: rest ∨ c = ' ' := fun member =>
      (ih member).imp_left (List.mem_cons_of_mem d)
    unfold keep at member
    split at member
    all_goals grind

theorem mem_keep_of_mem {reader : Reader} (member : c ∈ typed) (visible : isWhitespace c = false) :
    c ∈ (keep reader column typed).map (·.char) := by
  induction typed generalizing reader column with
  | nil => cases member
  | cons d rest ih =>
    -- Only whitespace is dropped.
    have kept : d = c ∨ ∀ {reader : Reader} {column : Nat},
        c ∈ (keep reader column rest).map (·.char) := by
      rcases List.mem_cons.mp member with rfl | member
      · exact .inl rfl
      · exact .inr (ih member)
    unfold keep
    split
    all_goals grind

theorem keep_start_eq_cons (kept : (keep .start column typed).map (·.char) = c :: text) :
    isWhitespace c = false ∧ ∃ column rest, c :: rest <:+ typed ∧
      (keep (.afterFirst c rest) column rest).map (·.char) = text := by
  induction typed generalizing column with
  | nil => simp [keep] at kept
  | cons d rest ih =>
    unfold keep at kept
    split at kept
    · obtain ⟨visible, column, later, suffix, kept⟩ := ih kept
      exact ⟨visible, column, later, suffix.trans (List.suffix_cons d rest), kept⟩
    · next visible =>
      rw [List.map_cons, List.cons.injEq] at kept
      obtain ⟨rfl, kept⟩ := kept
      exact ⟨by simpa using visible, _, rest, List.suffix_rfl, kept⟩

theorem keep_gap_eq_cons (kept : (keep (.gap start) column typed).map (·.char) = c :: text) :
    c = ' ' ∧ Upcoming typed .start text := by
  induction typed generalizing column with
  | nil => simp [keep] at kept
  | cons d rest ih =>
    unfold keep at kept
    split at kept
    · obtain ⟨space, upcoming⟩ := ih kept
      exact ⟨space, upcoming.mono (List.suffix_cons d rest)⟩
    · next visible =>
      rw [List.map_cons, List.map_cons, List.cons.injEq] at kept
      obtain ⟨space, kept⟩ := kept
      refine ⟨space.symm, column, d :: rest, List.suffix_rfl, ?_⟩
      rw [keep, if_neg visible]
      exact kept

theorem keep_word_eq_cons (kept : (keep .word column typed).map (·.char) = c :: text) :
    isWhitespace c = false ∧ Upcoming typed .word text ∨ c = ' ' ∧ Upcoming typed .start text := by
  cases typed with
  | nil => simp [keep] at kept
  | cons d rest =>
    unfold keep at kept
    split at kept
    · obtain ⟨space, upcoming⟩ := keep_gap_eq_cons kept
      exact .inr ⟨space, upcoming.mono (List.suffix_cons d rest)⟩
    · next visible =>
      rw [List.map_cons, List.cons.injEq] at kept
      obtain ⟨rfl, kept⟩ := kept
      exact .inl ⟨by simpa using visible, _, rest, List.suffix_cons d rest, kept⟩

theorem keep_literal_eq_append {quote : Char} {inside rest : List Char} (absent : quote ∉ inside)
    (kept : (keep (.literal quote) column typed).map (·.char) = inside ++ quote :: rest) :
    ∃ later, typed = inside ++ quote :: later ∧ Upcoming later .word rest := by
  induction inside generalizing column typed with
  | nil =>
    cases typed with
    | nil => simp [keep] at kept
    | cons d later =>
      simp only [keep, List.map_cons, List.nil_append, List.cons.injEq] at kept
      obtain ⟨rfl, kept⟩ := kept
      rw [if_pos rfl] at kept
      exact ⟨later, rfl, _, later, List.suffix_rfl, kept⟩
  | cons first inside ih =>
    cases typed with
    | nil => simp [keep] at kept
    | cons d later =>
      simp only [keep, List.map_cons, List.cons_append, List.cons.injEq] at kept
      obtain ⟨rfl, kept⟩ := kept
      have continues : d ≠ quote := fun same => absent (same ▸ List.mem_cons_self)
      rw [if_neg continues] at kept
      obtain ⟨rest', rfl, upcoming⟩ := ih (fun member => absent (List.mem_cons_of_mem d member)) kept
      exact ⟨rest', rfl, upcoming⟩

end

/-- Nothing is kept of whitespace alone, and something of every other query. -/
theorem text_eq_nil_iff (query : List Char) :
    (ofQuery query).text = [] ↔ ∀ c ∈ query, isWhitespace c = true := by
  have start : ∀ column, (keep .start column query).map (·.char) = [] ↔
      ∀ c ∈ query, isWhitespace c = true := by
    induction query with
    | nil => simp [keep]
    | cons c rest ih =>
      intro column
      unfold keep
      by_cases space : isWhitespace c = true <;> simp [space, ih]
  exact start 0

end GraphQuery.Query.Normalized
