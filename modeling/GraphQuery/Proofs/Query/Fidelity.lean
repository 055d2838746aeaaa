import GraphQuery.Proofs.Query.Places

/-! What a normalized query has of the query as typed.

Nothing but loose whitespace is dropped, nothing changes its order, and the literals stay as they are. Outside of
them words are apart by single spaces. So positions of the text come in the order of their columns. -/

set_option autoImplicit false

namespace GraphQuery.Query.Normalized

open Text

/-- Loose whitespace at the beginning or the end of a query, or behind other loose whitespace. -/
def Dropped (query : List Char) (place : Nat) : Prop :=
  Loose query place ∧
    ((∀ earlier, earlier ≤ place → Loose query earlier) ∨
      (∀ later, place ≤ later → later < query.length → Loose query later) ∨
        0 < place ∧ Loose query (place - 1))

/-- A normalized query says what the query as typed says, and where it says it. -/
structure Faithful (query : List Char) (normalized : Normalized) : Prop where
  increasing : normalized.placed.Pairwise fun left right => left.column < right.column
  /-- A character stands at its column, or it is the space for the run of whitespace that begins there. -/
  stands : ∀ placed ∈ normalized.placed, query[placed.column]? = some placed.char ∨
    placed.char = ' ' ∧ Loose query placed.column ∧
      (placed.column = 0 ∨ ¬Loose query (placed.column - 1))
  /-- What has no column is whitespace to be dropped, and all of it. -/
  dropped : ∀ place, place < query.length →
    ((∀ placed ∈ normalized.placed, placed.column ≠ place) ↔ Dropped query place)
  /-- A literal is kept in one piece. -/
  literals : ∀ first last, IsLiteral query first last → ∃ index, ∀ offset, first + offset ≤ last →
    normalized.placed[index + offset]? = query[first + offset]?.map fun c => ⟨c, first + offset⟩
  /-- Outside of literals there are single spaces, and no other whitespace. -/
  spaces : ∀ index space, normalized.placed[index]? = some space → isWhitespace space.char = true →
    InLiteral query space.column ∨ space.char = ' ' ∧ ∃ left right, 0 < index ∧
      normalized.placed[index - 1]? = some left ∧ isWhitespace left.char = false ∧
        normalized.placed[index + 1]? = some right ∧ isWhitespace right.char = false
  first : ∀ c ∈ normalized.text.head?, isWhitespace c = false
  last : ∀ c ∈ normalized.text.getLast?, isWhitespace c = false
  columns : ∀ index later, index < later → later ≤ normalized.text.length →
    normalized.column index < normalized.column later
  /-- The end of the text is one past its last character. -/
  ending : normalized.column normalized.text.length =
    normalized.placed.getLast?.elim 1 fun last => last.column + 1 + 1

section Kept
variable {query : List Char} {placed : Placed} {place : Nat}

theorem keptAt_eq_some_iff : keptAt query place = some placed ↔ placed.column = place ∧
    (query[place]? = some placed.char ∧ ¬Loose query place ∨
      placed.char = ' ' ∧ OpensGap query place) := by
  obtain ⟨c, column⟩ := placed
  by_cases loose : Loose query place
  · by_cases opens : OpensGap query place
    · simp [keptAt, loose, opens, eq_comm, and_comm]
    · simp [keptAt, loose, opens]
  · have shut : ¬OpensGap query place := fun opens => loose opens.1
    rw [keptAt, if_neg loose]
    cases query[place]? <;> simp [loose, shut, and_comm, eq_comm]

theorem lt_length_of_kept (kept : keptAt query place = some placed) : place < query.length := by
  rcases (keptAt_eq_some_iff.mp kept).2 with ⟨here, _⟩ | ⟨_, ⟨⟨_, here, _⟩, _⟩, _⟩
  · exact (List.getElem?_eq_some_iff.mp here).1
  · exact (List.getElem?_eq_some_iff.mp here).1

theorem mem_placed_iff : placed ∈ (ofQuery query).placed ↔ keptAt query placed.column = some placed := by
  rw [placed_eq_filterMap, List.mem_filterMap]
  constructor
  · rintro ⟨place, _, kept⟩
    rwa [(keptAt_eq_some_iff.mp kept).1]
  · intro kept
    exact ⟨placed.column, List.mem_range.mpr (lt_length_of_kept kept), kept⟩

theorem keptAt_eq_none_iff (inside : place < query.length) :
    keptAt query place = none ↔ Loose query place ∧ ¬OpensGap query place := by
  by_cases loose : Loose query place
  · by_cases opens : OpensGap query place <;> simp [keptAt, loose, opens]
  · simp [keptAt, loose, inside]

theorem exists_mem_placed_iff :
    (∃ placed ∈ (ofQuery query).placed, placed.column = place) ↔
      ∃ placed, keptAt query place = some placed := by
  constructor
  · rintro ⟨placed, member, rfl⟩
    exact ⟨placed, mem_placed_iff.mp member⟩
  · rintro ⟨placed, kept⟩
    have same := (keptAt_eq_some_iff.mp kept).1
    exact ⟨placed, mem_placed_iff.mpr (same ▸ kept), same⟩

theorem increasing_placed (query : List Char) :
    (ofQuery query).placed.Pairwise fun left right => left.column < right.column := by
  rw [placed_eq_filterMap]
  refine List.Pairwise.filterMap _ ?_ List.pairwise_lt_range
  intro place later before left kept right kept'
  rwa [(keptAt_eq_some_iff.mp kept).1, (keptAt_eq_some_iff.mp kept').1]

theorem mem_placed_of_not_loose {c : Char} (here : query[place]? = some c) (bound : ¬Loose query place) :
    ⟨c, place⟩ ∈ (ofQuery query).placed :=
  mem_placed_iff.mpr (keptAt_of_not_loose here bound)

theorem mem_placed_of_visible {c : Char} (here : query[place]? = some c)
    (visible : isWhitespace c = false) : ⟨c, place⟩ ∈ (ofQuery query).placed :=
  mem_placed_iff.mpr (keptAt_of_visible here visible)

end Kept

/-! Loose whitespace that is dropped. -/

section Whitespace
variable {query : List Char} {placed : Placed} {place : Nat}

/-- A literal ends with its quote, so whitespace before loose whitespace is loose. -/
theorem Loose.pred (loose : Loose query place) (positive : 0 < place)
    (white : WhiteAt query (place - 1)) : Loose query (place - 1) := by
  refine ⟨white, fun ⟨first, last, literal, begun, ends⟩ => ?_⟩
  rcases Nat.lt_or_eq_of_le ends with after | rfl
  · exact loose.2 ⟨first, last, literal, by omega, by omega⟩
  · exact not_whiteAt_of_visibleAt literal.visible.2 white

theorem dropped_iff (inside : place < query.length) :
    Dropped query place ↔ Loose query place ∧ ¬OpensGap query place := by
  constructor
  · rintro ⟨loose, ends⟩
    refine ⟨loose, fun ⟨_, within, later, after, visible⟩ => ?_⟩
    have before : 0 < place := Nat.pos_of_ne_zero fun zero => within (.inl zero)
    rcases ends with leading | trailing | ⟨_, follows⟩
    · exact within (.inr (leading (place - 1) (by omega)).1)
    · have ⟨_, there, _⟩ := visible
      have bound := (List.getElem?_eq_some_iff.mp there).1
      exact not_whiteAt_of_visibleAt visible (trailing later (Nat.le_of_lt after) bound).1
    · exact within (.inr follows.1)
  · rintro ⟨loose, shut⟩
    refine ⟨loose, ?_⟩
    by_cases start : WordStart query place
    · rcases start with rfl | white
      · exact .inl fun earlier least => Nat.le_zero.mp least ▸ loose
      · by_cases positive : 0 < place
        · exact .inr (.inr ⟨positive, loose.pred positive white⟩)
        · exact .inl fun earlier least => (by omega : earlier = place) ▸ loose
    · -- A run that follows on a word and opens no gap goes on to the end of the query.
      have silent : ∀ later, place < later → ¬VisibleAt query later := fun later after visible =>
        shut ⟨loose, start, later, after, visible⟩
      refine .inr (.inl fun later after bound => ?_)
      rcases Nat.lt_or_eq_of_le after with less | rfl
      · have here : query[later]? = some query[later] := List.getElem?_eq_getElem bound
        refine ⟨(whiteAt_or_visibleAt here).resolve_right (silent later less), ?_⟩
        rintro ⟨first, last, literal, _, ends⟩
        exact silent last (by omega) literal.visible.2
      · exact loose

theorem visible_of_loose_pred (positive : 0 < place) (loose : Loose query (place - 1))
    (kept : keptAt query place = some placed) : isWhitespace placed.char = false := by
  rcases (keptAt_eq_some_iff.mp kept).2 with ⟨here, bound⟩ | ⟨_, opens⟩
  · by_contra space
    have white : WhiteAt query place := ⟨placed.char, here, by simpa using space⟩
    refine bound ⟨white, fun ⟨first, last, literal, begun, ends⟩ => ?_⟩
    rcases Nat.lt_or_eq_of_le begun with before | rfl
    · exact loose.2 ⟨first, last, literal, by omega, by omega⟩
    · exact not_whiteAt_of_visibleAt literal.visible.1 white
  · exact absurd (.inr loose.1) opens.2.1

theorem OpensGap.pred (opens : OpensGap query place) : 0 < place ∧ VisibleAt query (place - 1) := by
  obtain ⟨⟨⟨_, here, _⟩, _⟩, within, _⟩ := opens
  have positive : 0 < place := Nat.pos_of_ne_zero fun zero => within (.inl zero)
  have bound := (List.getElem?_eq_some_iff.mp here).1
  have before : query[place - 1]? = some query[place - 1] := List.getElem?_eq_getElem (by omega)
  exact ⟨positive, (whiteAt_or_visibleAt before).resolve_left fun white => within (.inr white)⟩

/-- Where whitespace is kept, something else is kept before it and after it. -/
theorem exists_around (kept : keptAt query place = some placed)
    (space : isWhitespace placed.char = true) :
    (∃ earlier, earlier < place ∧ VisibleAt query earlier) ∧
      ∃ later, place < later ∧ VisibleAt query later := by
  rcases (keptAt_eq_some_iff.mp kept).2 with ⟨here, bound⟩ | ⟨_, opens⟩
  · have white : WhiteAt query place := ⟨placed.char, here, space⟩
    have inside : InLiteral query place := by
      by_contra outside
      exact bound ⟨white, outside⟩
    obtain ⟨first, last, literal, begun, ends⟩ := inside
    have different : ∀ {other}, VisibleAt query other → other ≠ place := by
      rintro other visible rfl
      exact not_whiteAt_of_visibleAt visible white
    exact ⟨⟨first, Nat.lt_of_le_of_ne begun (different literal.visible.1), literal.visible.1⟩,
      ⟨last, Nat.lt_of_le_of_ne ends (different literal.visible.2).symm, literal.visible.2⟩⟩
  · obtain ⟨positive, before⟩ := opens.pred
    exact ⟨⟨place - 1, by omega, before⟩, opens.2.2⟩

end Whitespace

/-! Neighbours in a list whose columns increase. -/

section Neighbours
variable {list : List Placed} {left right : Placed} {index place : Nat}

theorem column_lt_iff (increasing : list.Pairwise fun left right => left.column < right.column)
    (here : list[index]? = some left) (there : list[place]? = some right) :
    left.column < right.column ↔ index < place := by
  obtain ⟨bound, rfl⟩ := List.getElem?_eq_some_iff.mp here
  obtain ⟨bound', rfl⟩ := List.getElem?_eq_some_iff.mp there
  have ordered := List.pairwise_iff_getElem.mp increasing
  constructor
  · intro less
    by_contra other
    rcases Nat.lt_or_eq_of_le (Nat.not_lt.mp other) with before | rfl
    · have := ordered place index bound' bound before
      omega
    · omega
  · exact ordered index place bound bound'

theorem exists_getElem?_succ (increasing : list.Pairwise fun left right => left.column < right.column)
    (here : list[index]? = some left) {other : Placed} (member : other ∈ list)
    (beyond : left.column < other.column) :
    ∃ right, list[index + 1]? = some right ∧ left.column < right.column ∧
      ∀ middle ∈ list, left.column < middle.column → right.column ≤ middle.column := by
  obtain ⟨further, there⟩ := List.getElem?_of_mem member
  have after := (column_lt_iff increasing here there).mp beyond
  have bound := (List.getElem?_eq_some_iff.mp there).1
  have next : list[index + 1]? = some list[index + 1] := List.getElem?_eq_getElem (by omega)
  refine ⟨_, next, (column_lt_iff increasing here next).mpr (Nat.lt_succ_self index), ?_⟩
  intro middle inside follows
  obtain ⟨place, found⟩ := List.getElem?_of_mem inside
  have later := (column_lt_iff increasing here found).mp follows
  have earlier := column_lt_iff increasing found next
  omega

theorem getElem?_succ_of_next (increasing : list.Pairwise fun left right => left.column < right.column)
    (here : list[index]? = some left) (member : right ∈ list) (before : left.column < right.column)
    (next : ∀ other ∈ list, left.column < other.column → right.column ≤ other.column) :
    list[index + 1]? = some right := by
  obtain ⟨nearest, found, follows, least⟩ := exists_getElem?_succ increasing here member before
  have same : nearest.column = right.column :=
    Nat.le_antisymm (least right member before) (next nearest (List.mem_of_getElem? found) follows)
  obtain ⟨place, there⟩ := List.getElem?_of_mem member
  have less := column_lt_iff increasing found there
  have more := column_lt_iff increasing there found
  obtain rfl : place = index + 1 := by omega
  exact there

end Neighbours

section Faithfulness
variable {query : List Char} {first last index : Nat} {space : Placed}

theorem literal_kept (literal : IsLiteral query first last) : ∃ index, ∀ offset, first + offset ≤ last →
    (ofQuery query).placed[index + offset]? =
      query[first + offset]?.map fun c => ⟨c, first + offset⟩ := by
  have inside : last < query.length := by
    obtain ⟨_, there, _⟩ := literal.visible.2
    exact (List.getElem?_eq_some_iff.mp there).1
  have stays : ∀ place (begun : first ≤ place) (ends : place ≤ last),
      ⟨query[place], place⟩ ∈ (ofQuery query).placed := by
    intro place begun ends
    have here : query[place]? = some query[place] := List.getElem?_eq_getElem (by omega)
    exact mem_placed_of_not_loose here fun loose => loose.2 ⟨first, last, literal, begun, ends⟩
  obtain ⟨index, found⟩ := List.getElem?_of_mem (stays first (Nat.le_refl _) (Nat.le_of_lt literal.lt))
  refine ⟨index, fun offset ends => ?_⟩
  have here : query[first + offset]? = some query[first + offset] := List.getElem?_eq_getElem (by omega)
  rw [here, Option.map_some]
  -- On the places of the literal, each of which stands right behind the one before.
  clear here
  induction offset with
  | zero => exact found
  | succ offset ih =>
    refine getElem?_succ_of_next (increasing_placed query) (ih (by omega))
      (stays _ (by omega) ends) (Nat.lt_succ_self _) fun other _ after => ?_
    exact after

theorem exists_left (opens : OpensGap query space.column)
    (found : (ofQuery query).placed[index]? = some space) :
    ∃ left, 0 < index ∧ (ofQuery query).placed[index - 1]? = some left ∧
      isWhitespace left.char = false := by
  have increasing := increasing_placed query
  obtain ⟨positive, c, before, visible⟩ := opens.pred
  have adjacent : (⟨c, space.column - 1⟩ : Placed).column + 1 = space.column :=
    Nat.sub_add_cancel positive
  have member := mem_placed_of_visible before visible
  obtain ⟨place, leftFound⟩ := List.getElem?_of_mem member
  have next : (ofQuery query).placed[place + 1]? = some space :=
    getElem?_succ_of_next increasing leftFound (List.mem_of_getElem? found) (by omega)
      fun other _ beyond => by omega
  have less := column_lt_iff increasing found next
  have more := column_lt_iff increasing next found
  obtain rfl : index = place + 1 := by omega
  exact ⟨_, Nat.succ_pos place, leftFound, visible⟩

theorem exists_right (opens : OpensGap query space.column)
    (found : (ofQuery query).placed[index]? = some space) :
    ∃ right, (ofQuery query).placed[index + 1]? = some right ∧ isWhitespace right.char = false := by
  obtain ⟨loose, _, later, after, d, there, shown⟩ := opens
  obtain ⟨right, next, follows, least⟩ := exists_getElem?_succ (increasing_placed query) found
    (mem_placed_of_visible there shown) after
  have kept := mem_placed_iff.mp (List.mem_of_getElem? next)
  refine ⟨right, next, visible_of_loose_pred (by omega) ?_ kept⟩
  -- Nothing is kept in between, so the run goes on up to there.
  rcases Nat.lt_or_eq_of_le (Nat.le_sub_one_of_lt follows) with less | same
  · by_contra bound
    have inside := lt_length_of_kept kept
    have here : query[right.column - 1]? = some query[right.column - 1] :=
      List.getElem?_eq_getElem (by omega)
    have nearer := least _ (mem_placed_of_not_loose here bound) less
    exact absurd nearer (by simp only; omega)
  · exact same ▸ loose

theorem space_between (found : (ofQuery query).placed[index]? = some space)
    (white : isWhitespace space.char = true) (outside : ¬InLiteral query space.column) :
    space.char = ' ' ∧ ∃ left right, 0 < index ∧
      (ofQuery query).placed[index - 1]? = some left ∧ isWhitespace left.char = false ∧
        (ofQuery query).placed[index + 1]? = some right ∧ isWhitespace right.char = false := by
  have kept := mem_placed_iff.mp (List.mem_of_getElem? found)
  rcases (keptAt_eq_some_iff.mp kept).2 with ⟨here, bound⟩ | ⟨same, opens⟩
  · exact absurd ⟨⟨space.char, here, white⟩, outside⟩ bound
  · obtain ⟨left, positive, before, leftVisible⟩ := exists_left opens found
    obtain ⟨right, after, rightVisible⟩ := exists_right opens found
    exact ⟨same, left, right, positive, before, leftVisible, after, rightVisible⟩

theorem visible_of_end {placed : Placed} (member : placed ∈ (ofQuery query).placed)
    (least : (∀ other ∈ (ofQuery query).placed, placed.column ≤ other.column) ∨
      ∀ other ∈ (ofQuery query).placed, other.column ≤ placed.column) :
    isWhitespace placed.char = false := by
  by_contra space
  obtain ⟨⟨earlier, before, c, here, visible⟩, later, after, d, there, shown⟩ :=
    exists_around (mem_placed_iff.mp member) (by simpa using space)
  rcases least with least | most
  · exact absurd (least _ (mem_placed_of_visible here visible)) (Nat.not_le.mpr before)
  · exact absurd (most _ (mem_placed_of_visible there shown)) (Nat.not_le.mpr after)

theorem visible_of_head? {c : Char} (first : (ofQuery query).text.head? = some c) :
    isWhitespace c = false := by
  rw [text, List.head?_map, Option.map_eq_some_iff] at first
  obtain ⟨placed, head, rfl⟩ := first
  obtain ⟨rest, split⟩ := List.head?_eq_some_iff.mp head
  have ordered := increasing_placed query
  rw [split, List.pairwise_cons] at ordered
  refine visible_of_end (List.mem_of_head? head) (.inl ?_)
  rw [split]
  exact List.forall_mem_cons.mpr ⟨Nat.le_refl _, fun other later => Nat.le_of_lt (ordered.1 other later)⟩

theorem visible_of_getLast? {c : Char} (last : (ofQuery query).text.getLast? = some c) :
    isWhitespace c = false := by
  rw [text, List.getLast?_map, Option.map_eq_some_iff] at last
  obtain ⟨placed, final, rfl⟩ := last
  obtain ⟨init, split⟩ := List.getLast?_eq_some_iff.mp final
  have ordered := increasing_placed query
  rw [split, List.pairwise_append] at ordered
  refine visible_of_end (List.mem_of_getLast? final) (.inr ?_)
  rw [split]
  refine List.forall_mem_append.mpr ⟨fun other earlier => ?_, by simp⟩
  exact Nat.le_of_lt (ordered.2.2 other earlier placed (List.mem_singleton_self placed))

theorem column_lt_column {later : Nat} (before : index < later)
    (inside : later ≤ (ofQuery query).text.length) :
    (ofQuery query).column index < (ofQuery query).column later := by
  have increasing := increasing_placed query
  rw [text, List.length_map] at inside
  have here : (ofQuery query).placed[index]? = some (ofQuery query).placed[index] :=
    List.getElem?_eq_getElem (by omega)
  rcases Nat.lt_or_eq_of_le inside with less | same
  · have there : (ofQuery query).placed[later]? = some (ofQuery query).placed[later] :=
      List.getElem?_eq_getElem less
    have := (column_lt_iff increasing here there).mpr before
    simp only [column, here, there]
    omega
  · have beyond : (ofQuery query).placed[later]? = none := List.getElem?_eq_none (by omega)
    have there : (ofQuery query).placed[later - 1]? = some (ofQuery query).placed[later - 1] :=
      List.getElem?_eq_getElem (by omega)
    have last : (ofQuery query).placed.getLast? = some (ofQuery query).placed[later - 1] := by
      rw [List.getLast?_eq_getElem?, ← there, same]
    have := column_lt_iff increasing there here
    simp only [column, here, beyond, endColumn, last]
    omega

theorem column_length (query : List Char) : (ofQuery query).column (ofQuery query).text.length =
    (ofQuery query).placed.getLast?.elim 1 fun last => last.column + 1 + 1 := by
  have beyond : (ofQuery query).placed[(ofQuery query).text.length]? = none :=
    List.getElem?_eq_none (by simp [text])
  simp only [column, beyond, endColumn]
  cases (ofQuery query).placed.getLast? <;> rfl

/-- Every query is normalized faithfully. -/
theorem faithful_ofQuery (query : List Char) : Faithful query (ofQuery query) where
  increasing := increasing_placed query
  stands := by
    intro placed member
    rcases (keptAt_eq_some_iff.mp (mem_placed_iff.mp member)).2 with ⟨here, _⟩ | ⟨same, opens⟩
    · exact .inl here
    · exact .inr ⟨same, opens.1, .inr fun loose => opens.2.1 (.inr loose.1)⟩
  dropped := by
    intro place inside
    have nothing : ¬(∃ placed ∈ (ofQuery query).placed, placed.column = place) ↔
        ¬∃ placed, keptAt query place = some placed := not_congr exists_mem_placed_iff
    rw [dropped_iff inside, ← keptAt_eq_none_iff inside, Option.eq_none_iff_forall_ne_some]
    simpa using nothing
  literals := fun _ _ => literal_kept
  spaces := by
    intro index space found white
    by_cases inside : InLiteral query space.column
    · exact .inl inside
    · exact .inr (space_between found white inside)
  first := fun _ => visible_of_head?
  last := fun _ => visible_of_getLast?
  columns := fun _ _ => column_lt_column
  ending := column_length query

/-- The space stands where the tab does, and the literal keeps its spaces. -/
example : (ofQuery " a\t 'b  c' ".toList).text = "a 'b  c'".toList ∧
    (List.range 9).map (ofQuery " a\t 'b  c' ".toList).column = [2, 3, 5, 6, 7, 8, 9, 10, 11] := by
  decide

end Faithfulness

end GraphQuery.Query.Normalized
