import GraphQuery.Proofs.Query.Columns
import Mathlib.Data.Nat.Find

/-! What becomes of each place of a query.

A literal is told by where its quotes stand, and whitespace by whether it is in a literal. So it can be said
of every place by itself what is kept of it. The reader keeps this for one place after the other; it carries
along the gap whose space it has not written yet. -/

set_option autoImplicit false

namespace GraphQuery.Query.Normalized

open Text

def WhiteAt (query : List Char) (place : Nat) : Prop :=
  ∃ c, query[place]? = some c ∧ isWhitespace c = true

def VisibleAt (query : List Char) (place : Nat) : Prop :=
  ∃ c, query[place]? = some c ∧ isWhitespace c = false

def WordStart (query : List Char) (place : Nat) : Prop :=
  place = 0 ∨ WhiteAt query (place - 1)

/-- A quote at the first place, and the next quote of its kind at the last. -/
structure Enclosed (query : List Char) (quote : Char) (first last : Nat) : Prop where
  quotes : isQuote quote = true
  opens : query[first]? = some quote
  before : first < last
  closes : query[last]? = some quote
  between : ∀ place, first < place → place < last → query[place]? ≠ some quote

/-- Quotes open a literal at the start of a word, unless they are themselves in an earlier literal. -/
def IsLiteral (query : List Char) (first last : Nat) : Prop :=
  WordStart query first ∧ (∃ quote, Enclosed query quote first last) ∧
    ∀ earlier, earlier < first → ∀ ended, IsLiteral query earlier ended → ended < first
termination_by first

def InLiteral (query : List Char) (place : Nat) : Prop :=
  ∃ first last, IsLiteral query first last ∧ first ≤ place ∧ place ≤ last

def Loose (query : List Char) (place : Nat) : Prop :=
  WhiteAt query place ∧ ¬InLiteral query place

/-- A run of loose whitespace between two words begins here. -/
def OpensGap (query : List Char) (place : Nat) : Prop :=
  Loose query place ∧ ¬WordStart query place ∧ ∃ later, place < later ∧ VisibleAt query later

open Classical in
noncomputable def keptAt (query : List Char) (place : Nat) : Option Placed :=
  if Loose query place then (if OpensGap query place then some ⟨' ', place⟩ else none)
  else query[place]?.map fun c => ⟨c, place⟩

section Literals
variable {query : List Char} {c quote : Char} {place first last : Nat}

theorem not_whiteAt_of_visibleAt (visible : VisibleAt query place) : ¬WhiteAt query place := by
  rintro ⟨c, here, space⟩
  obtain ⟨d, there, shown⟩ := visible
  rw [here] at there
  cases there
  rw [space] at shown
  cases shown

theorem whiteAt_or_visibleAt (here : query[place]? = some c) :
    WhiteAt query place ∨ VisibleAt query place := by
  cases space : isWhitespace c with
  | true => exact .inl ⟨c, here, space⟩
  | false => exact .inr ⟨c, here, space⟩

theorem isLiteral_iff : IsLiteral query first last ↔
    WordStart query first ∧ (∃ quote, Enclosed query quote first last) ∧
      ∀ earlier, earlier < first → ∀ ended, IsLiteral query earlier ended → ended < first := by
  rw [IsLiteral]

theorem Enclosed.visible (enclosed : Enclosed query quote first last) :
    VisibleAt query first ∧ VisibleAt query last :=
  have visible := isWhitespace_of_isQuote enclosed.quotes
  ⟨⟨quote, enclosed.opens, visible⟩, ⟨quote, enclosed.closes, visible⟩⟩

theorem Enclosed.unique {other : Char} {last' : Nat} (enclosed : Enclosed query quote first last)
    (enclosed' : Enclosed query other first last') : last = last' := by
  have same : some quote = some other := enclosed.opens.symm.trans enclosed'.opens
  cases same
  rcases Nat.lt_trichotomy last last' with less | same | more
  · exact absurd enclosed.closes (enclosed'.between last enclosed.before less)
  · exact same
  · exact absurd enclosed'.closes (enclosed.between last' enclosed'.before more)

/-- A quote that comes again encloses what stands before it comes first. -/
theorem exists_enclosed (opener : isQuote quote = true) (here : query[first]? = some quote)
    (again : ∃ later, first < later ∧ query[later]? = some quote) :
    ∃ last, Enclosed query quote first last := by
  have found := Nat.find_spec again
  refine ⟨Nat.find again, opener, here, found.1, found.2, fun place after before same => ?_⟩
  exact Nat.find_min again before ⟨after, same⟩

theorem IsLiteral.exists_enclosed (literal : IsLiteral query first last) :
    ∃ quote, Enclosed query quote first last :=
  (isLiteral_iff.mp literal).2.1

theorem IsLiteral.lt (literal : IsLiteral query first last) : first < last := by
  obtain ⟨_, enclosed⟩ := literal.exists_enclosed
  exact enclosed.before

theorem IsLiteral.visible (literal : IsLiteral query first last) :
    VisibleAt query first ∧ VisibleAt query last := by
  obtain ⟨_, enclosed⟩ := literal.exists_enclosed
  exact enclosed.visible

/-- Literals do not overlap. -/
theorem IsLiteral.eq_or_apart {first' last' : Nat} (literal : IsLiteral query first last)
    (literal' : IsLiteral query first' last') :
    (first = first' ∧ last = last') ∨ last < first' ∨ last' < first := by
  rcases Nat.lt_trichotomy first first' with less | rfl | more
  · exact .inr (.inl ((isLiteral_iff.mp literal').2.2 first less last literal))
  · obtain ⟨_, enclosed⟩ := literal.exists_enclosed
    obtain ⟨_, enclosed'⟩ := literal'.exists_enclosed
    exact .inl ⟨rfl, enclosed.unique enclosed'⟩
  · exact .inr (.inr ((isLiteral_iff.mp literal).2.2 first' more last' literal'))

end Literals

/-! The state of the reader tells what stands before a place. -/

def Shut (query : List Char) (place : Nat) : Prop :=
  ∀ first last, IsLiteral query first last → first < place → last < place

/-- What each state says of the places before this one. -/
def Reader.Tracks (query : List Char) (place : Nat) : Reader → Prop
  | .start => Shut query place ∧ WordStart query place
  | .word => Shut query place ∧ ¬WordStart query place
  | .gap begun => Shut query place ∧ ¬WordStart query begun ∧ begun < place ∧
      ∀ inside, begun ≤ inside → inside < place → WhiteAt query inside
  | .literal quote => ∃ first last, IsLiteral query first last ∧ Enclosed query quote first last ∧
      first < place ∧ place ≤ last

section Steps
variable {query rest : List Char} {c : Char} {place first last : Nat} {reader : Reader}

theorem Shut.succ (shut : Shut query place) (none : ∀ last, ¬IsLiteral query place last) :
    Shut query (place + 1) := by
  intro first last literal before
  rcases Nat.lt_succ_iff_lt_or_eq.mp before with earlier | rfl
  · exact Nat.lt_succ_of_lt (shut first last literal earlier)
  · exact absurd literal (none last)

theorem Shut.loose (shut : Shut query place) (white : WhiteAt query place) : Loose query place := by
  refine ⟨white, fun ⟨first, last, literal, begun, ends⟩ => ?_⟩
  rcases Nat.lt_or_eq_of_le begun with earlier | rfl
  · have := shut first last literal earlier
    omega
  · exact not_whiteAt_of_visibleAt literal.visible.1 white

theorem Shut.succ_of_white (shut : Shut query place) (white : WhiteAt query place) :
    Shut query (place + 1) :=
  shut.succ fun last literal => (shut.loose white).2 ⟨place, last, literal, le_rfl, Nat.le_of_lt literal.lt⟩

theorem wordStart_succ : WordStart query (place + 1) ↔ WhiteAt query place := by
  simp [WordStart]

theorem not_wordStart_succ (visible : VisibleAt query place) : ¬WordStart query (place + 1) :=
  fun start => not_whiteAt_of_visibleAt visible (wordStart_succ.mp start)

theorem loose_of_gap {begun : Nat} (shut : Shut query place)
    (white : ∀ inside, begun ≤ inside → inside < place → WhiteAt query inside) (before : begun < place) :
    Loose query begun := by
  refine ⟨white begun le_rfl before, fun ⟨first, last, literal, starts, ends⟩ => ?_⟩
  have closed := shut first last literal (by omega)
  exact not_whiteAt_of_visibleAt literal.visible.2 (white last ends closed)

theorem getElem?_of_drop (split : query.drop place = c :: rest) :
    query[place]? = some c ∧ query.drop (place + 1) = rest := by
  constructor
  · rw [← List.head?_drop, split, List.head?_cons]
  · rw [← List.tail_drop, split, List.tail_cons]

theorem mem_iff_later (behind : query.drop (place + 1) = rest) :
    c ∈ rest ↔ ∃ later, place < later ∧ query[later]? = some c := by
  rw [← behind, List.mem_iff_getElem?]
  simp only [List.getElem?_drop]
  constructor
  · rintro ⟨offset, found⟩
    exact ⟨place + 1 + offset, by omega, found⟩
  · rintro ⟨later, after, found⟩
    exact ⟨later - (place + 1), by rwa [Nat.add_sub_cancel' after]⟩

/-- A quote at the start of a word opens a literal just if it comes again. -/
theorem tracks_afterFirst (split : query.drop place = c :: rest) (shut : Shut query place)
    (start : WordStart query place) (visible : isWhitespace c = false) :
    (Reader.afterFirst c rest).Tracks query (place + 1) := by
  obtain ⟨here, behind⟩ := getElem?_of_drop split
  unfold Reader.afterFirst
  split
  · next opens =>
    simp only [Bool.and_eq_true, List.contains_iff_mem] at opens
    obtain ⟨last, enclosed⟩ := exists_enclosed opens.1 here ((mem_iff_later behind).mp opens.2)
    have literal : IsLiteral query place last :=
      isLiteral_iff.mpr ⟨start, ⟨c, enclosed⟩, fun first before last literal =>
        shut first last literal before⟩
    exact ⟨place, last, literal, enclosed, Nat.lt_succ_self place, enclosed.before⟩
  · next plain =>
    -- A literal that begins here would be enclosed by `c` and by another `c` behind it.
    refine ⟨shut.succ fun last literal => plain ?_, not_wordStart_succ ⟨c, here, visible⟩⟩
    obtain ⟨quote, enclosed⟩ := literal.exists_enclosed
    obtain rfl : c = quote := Option.some.inj (here.symm.trans enclosed.opens)
    simp only [Bool.and_eq_true, List.contains_iff_mem]
    exact ⟨enclosed.quotes, (mem_iff_later behind).mpr ⟨last, enclosed.before, enclosed.closes⟩⟩

theorem Reader.Tracks.next (split : query.drop place = c :: rest) (tracks : reader.Tracks query place) :
    (reader.next place c rest).Tracks query (place + 1) := by
  obtain ⟨here, _⟩ := getElem?_of_drop split
  cases reader with
  | start =>
    obtain ⟨shut, start⟩ := tracks
    simp only [Reader.next]
    split
    · next space =>
      have white : WhiteAt query place := ⟨c, here, space⟩
      exact ⟨shut.succ_of_white white, wordStart_succ.mpr white⟩
    · next visible => exact tracks_afterFirst split shut start (by simpa using visible)
  | word =>
    obtain ⟨shut, inside⟩ := tracks
    simp only [Reader.next]
    split
    · next space =>
      have white : WhiteAt query place := ⟨c, here, space⟩
      refine ⟨shut.succ_of_white white, inside, Nat.lt_succ_self place, fun other after before => ?_⟩
      obtain rfl : other = place := by omega
      exact white
    · next visible =>
      -- Inside a word no literal begins.
      exact ⟨shut.succ fun last literal => inside (isLiteral_iff.mp literal).1,
        not_wordStart_succ ⟨c, here, by simpa using visible⟩⟩
  | gap begun =>
    obtain ⟨shut, inside, before, white⟩ := tracks
    simp only [Reader.next]
    split
    · next space =>
      have here : WhiteAt query place := ⟨c, here, space⟩
      refine ⟨shut.succ_of_white here, inside, by omega, fun other after earlier => ?_⟩
      rcases Nat.lt_succ_iff_lt_or_eq.mp earlier with less | rfl
      · exact white other after less
      · exact here
    · next visible =>
      have start : WordStart query place := .inr (white (place - 1) (by omega) (by omega))
      exact tracks_afterFirst split shut start (by simpa using visible)
  | literal quote =>
    obtain ⟨first, last, literal, enclosed, after, before⟩ := tracks
    simp only [Reader.next]
    split
    · next closing =>
      subst closing
      -- The first quote of its kind is the one that closes the literal.
      obtain rfl : place = last := by
        by_contra continues
        exact enclosed.between place after (by omega) here
      refine ⟨fun first' last' literal' earlier => ?_, not_wordStart_succ literal.visible.2⟩
      rcases literal.eq_or_apart literal' with ⟨rfl, rfl⟩ | apart | apart <;> omega
    · next continues =>
      refine ⟨first, last, literal, enclosed, by omega, ?_⟩
      rcases Nat.lt_or_eq_of_le before with less | rfl
      · exact less
      · exact absurd (Option.some.inj (here.symm.trans enclosed.closes)) continues

end Steps

/-! What is kept of one place after the other. -/

noncomputable def Reader.pending (query : List Char) : Reader → List Placed
  | .gap begun => (keptAt query begun).toList
  | .start | .word | .literal _ => []

section Keeping
variable {query typed rest : List Char} {c : Char} {place : Nat} {reader : Reader} {placed : Placed}

theorem keptAt_of_not_loose (here : query[place]? = some c) (bound : ¬Loose query place) :
    keptAt query place = some ⟨c, place⟩ := by
  rw [keptAt, if_neg bound, here]
  rfl

theorem keptAt_of_visible (here : query[place]? = some c) (visible : isWhitespace c = false) :
    keptAt query place = some ⟨c, place⟩ :=
  keptAt_of_not_loose here fun loose => not_whiteAt_of_visibleAt ⟨c, here, visible⟩ loose.1

theorem keptAt_of_wordStart (loose : Loose query place) (start : WordStart query place) :
    keptAt query place = none := by
  rw [keptAt, if_pos loose, if_neg fun opens => opens.2.1 start]

theorem keptAt_of_opensGap (opens : OpensGap query place) : keptAt query place = some ⟨' ', place⟩ := by
  rw [keptAt, if_pos opens.1, if_pos opens]

@[simp] theorem pending_start : Reader.start.pending query = [] := rfl

@[simp] theorem pending_word : Reader.word.pending query = [] := rfl

@[simp] theorem pending_gap {begun : Nat} :
    (Reader.gap begun).pending query = (keptAt query begun).toList := rfl

@[simp] theorem pending_afterFirst : (Reader.afterFirst c rest).pending query = [] := by
  unfold Reader.afterFirst
  split <;> rfl

/-- One step keeps what there is to be kept of one place. -/
theorem kept_append_pending (split : query.drop place = c :: rest)
    (tracks : reader.Tracks query place) :
    reader.kept place c ++ (reader.next place c rest).pending query =
      reader.pending query ++ (keptAt query place).toList := by
  obtain ⟨here, _⟩ := getElem?_of_drop split
  cases reader with
  | start =>
    obtain ⟨shut, start⟩ := tracks
    cases space : isWhitespace c with
    | true =>
      rw [keptAt_of_wordStart (shut.loose ⟨c, here, space⟩) start]
      simp [Reader.kept, Reader.next, space]
    | false =>
      rw [keptAt_of_visible here space]
      simp [Reader.kept, Reader.next, space]
  | word =>
    cases space : isWhitespace c with
    | true => simp [Reader.kept, Reader.next, space]
    | false =>
      rw [keptAt_of_visible here space]
      simp [Reader.kept, Reader.next, space]
  | gap begun =>
    obtain ⟨shut, inside, before, white⟩ := tracks
    cases space : isWhitespace c with
    | true =>
      have start : WordStart query place := .inr (white (place - 1) (by omega) (by omega))
      rw [keptAt_of_wordStart (shut.loose ⟨c, here, space⟩) start]
      simp [Reader.kept, Reader.next, space]
    | false =>
      -- Only now it is known that a word follows on the gap.
      have opens : OpensGap query begun :=
        ⟨loose_of_gap shut white before, inside, place, before, c, here, space⟩
      simp [Reader.kept, Reader.next, space, keptAt_of_visible here space, keptAt_of_opensGap opens]
  | literal quote =>
    obtain ⟨first, last, literal, enclosed, after, before⟩ := tracks
    have bound : ¬Loose query place := fun loose => loose.2 ⟨first, last, literal, Nat.le_of_lt after, before⟩
    rw [keptAt_of_not_loose here bound]
    simp only [Reader.kept, Reader.next]
    split <;> rfl

/-- A gap at the end of the query has no space. -/
theorem pending_of_end (split : query.drop place = []) (tracks : reader.Tracks query place) :
    reader.pending query = [] := by
  cases reader with
  | start | word | literal => rfl
  | gap begun =>
    obtain ⟨shut, inside, before, white⟩ := tracks
    have short : query.length ≤ place := List.drop_eq_nil_iff.mp split
    have loose := loose_of_gap shut white before
    -- Nothing visible follows the gap.
    have closed : ¬OpensGap query begun := by
      rintro ⟨_, _, later, after, visible⟩
      have ⟨_, there, _⟩ := visible
      have := (List.getElem?_eq_some_iff.mp there).1
      exact not_whiteAt_of_visibleAt visible (white later (Nat.le_of_lt after) (by omega))
    simp [keptAt, loose, closed]

theorem keep_eq_filterMap (split : query.drop place = typed) (tracks : reader.Tracks query place) :
    keep reader place typed =
      reader.pending query ++ (List.range' place typed.length).filterMap (keptAt query) := by
  -- On what is left to read, while the state tracks what has been read.
  induction typed generalizing place reader with
  | nil => simp [pending_of_end split tracks]
  | cons c rest ih =>
    rw [keep_cons, ih (getElem?_of_drop split).2 (tracks.next split), ← List.append_assoc,
      kept_append_pending split tracks, List.append_assoc, List.length_cons, List.range'_succ,
      List.filterMap_cons]
    cases keptAt query place <;> rfl

/-- What is kept of a query is what is kept of each of its places. -/
theorem placed_eq_filterMap (query : List Char) :
    (ofQuery query).placed = (List.range query.length).filterMap (keptAt query) := by
  have shut : Shut query 0 := fun _ _ _ before => absurd before (Nat.not_lt_zero _)
  have tracks : Reader.start.Tracks query 0 := ⟨shut, .inl rfl⟩
  rw [ofQuery, keep_eq_filterMap List.drop_zero tracks, List.range_eq_range']
  rfl

end Keeping

end GraphQuery.Query.Normalized
