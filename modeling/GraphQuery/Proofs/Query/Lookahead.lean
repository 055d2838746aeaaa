import GraphQuery.Proofs.Parsing
import GraphQuery.Proofs.Query.Fidelity
import GraphQuery.Proofs.Query.Logs
import GraphQuery.Proofs.Query.Stops

/-! What the lookahead of a bare value is for.

It has a reader of its own for the beginnings of conditions, facets and relationships. Whatever the readers of
these go on with behind a value shows in it, so no value reaches beyond such a place. -/

set_option autoImplicit false

namespace GraphQuery.Query

open Text Grammar Normalized Matcher Query.Language

variable {grammar : Grammar} {entry : TypeEntry} {text rest : List Char}

/-! Wherever a facet, its group or a hop can go on, the lookahead says so. -/

/-- Another condition follows, another facet of the group, or the head of a hop. -/
def GoesOn (grammar : Grammar) (entry : TypeEntry) (text : List Char) : Prop :=
  (joined (condition grammar entry)).accepts text = true ∨
    (joined (nodeFacet grammar entry)).accepts text = true ∨
      (space >>= fun _ => anyRelationshipFacet grammar).accepts text = true

theorem accepts_of_read {α : Type} {matcher : Matcher α} {value : α}
    (read : matcher.read? text = some (value, rest)) : matcher.accepts text = true := by
  rw [accepts_eq_isSome, read]
  rfl

theorem continuation_of_condition {clause : Clause}
    (read : (condition grammar entry).read? text = some (clause, rest)) :
    continuation grammar entry text = true := by
  simp only [continuation, Bool.or_eq_true]
  obtain ⟨opened, middle, opening, said⟩ := read?_bind_eq_some.mp read
  rcases read?_optional_eq_some.mp opening with ⟨_, _, opener⟩ | ⟨_, rfl, _⟩
  · obtain ⟨_, _, opener, _⟩ := read?_bind_eq_some.mp opener
    simp [accepts_of_read opener]
  · rw [read?_orElse, Option.or_eq_some_iff] at said
    rcases said with named | ⟨_, implied⟩
    · obtain ⟨_, _, key, _⟩ := read?_bind_eq_some.mp named
      simp [accepts_of_read key]
    · unfold impliedCondition at implied
      split at implied
      · cases implied
      · obtain ⟨_, _, phrase, _⟩ := read?_bind_eq_some.mp implied
        simp [accepts_of_read phrase]

theorem continuation_of_nodeFacet {facet : Facet}
    (read : (nodeFacet grammar entry).read? text = some (facet, rest)) :
    continuation grammar entry text = true := by
  simp only [continuation, Bool.or_eq_true]
  obtain ⟨keys, middle, projected, said⟩ := read?_bind_eq_some.mp read
  rcases read?_optional_eq_some.mp projected with ⟨_, _, keys⟩ | ⟨_, rfl, _⟩
  · simp [accepts_of_read keys]
  · obtain ⟨_, _, name, _⟩ := read?_bind_eq_some.mp said
    simp [accepts_of_read name]

theorem endsValue_of_joined {α : Type} {matcher : Matcher α}
    (begins : ∀ {next rest : List Char} {value : α}, matcher.read? next = some (value, rest) →
      continuation grammar entry next = true)
    (goes : (joined matcher).accepts text = true) : endsValue grammar entry text = true := by
  obtain ⟨value, rest, read⟩ := exists_read_of_accepts goes
  obtain ⟨_, after, gap, read⟩ := read?_bind_eq_some.mp read
  obtain ⟨_, middle, connected, read⟩ := read?_bind_eq_some.mp read
  obtain ⟨_, next, behind, read⟩ := read?_bind_eq_some.mp read
  have both : (connective >>= fun _ => space).read? after = some ((), next) :=
    read?_bind_eq_some.mpr ⟨_, middle, connected, behind⟩
  have joint : ((do connective; space : Matcher Unit) after).result = some ((), next) := both
  rw [space, read?_piece] at gap
  simp only [endsValue, gap, joint, begins read, Bool.or_true]

/-- The name of one relationship is read, and so the first that reads shows in the lookahead. -/
theorem relationshipStart_of_name {relationship : TypeEntry} {first middle : List Char}
    (known : relationship ∈ grammar.relationshipEntries)
    (opener : (anyWord relationshipOpeners).read? text = some ((), first))
    (gap : space.read? first = some ((), middle))
    (name : (typeName relationship).read? middle = some ((), rest)) :
    (relationshipStart grammar).accepts text = true := by
  rw [accepts_eq_isSome, relationshipStart, read?_bind_of_eq_some opener, read?_bind_of_eq_some gap,
    read?_firstOf, List.findSome?_isSome_iff]
  exact ⟨typeName relationship, List.mem_map_of_mem known, by rw [name]; rfl⟩

theorem endsValue_of_relationship
    (goes : (space >>= fun _ => anyRelationshipFacet grammar).accepts text = true) :
    endsValue grammar entry text = true := by
  obtain ⟨value, rest, read⟩ := exists_read_of_accepts goes
  obtain ⟨_, after, gap, read⟩ := read?_bind_eq_some.mp read
  rw [anyRelationshipFacet, read?_furthestOf] at read
  obtain ⟨matcher, member, read⟩ := List.mem_map.mp (mem_of_longest read)
  obtain ⟨relationship, known, rfl⟩ := List.mem_map.mp member
  obtain ⟨joint, next, connected, read⟩ := read?_bind_eq_some.mp read
  obtain ⟨_, first, opener, read⟩ := read?_bind_eq_some.mp read
  obtain ⟨_, middle, behind, read⟩ := read?_bind_eq_some.mp read
  obtain ⟨_, _, name, _⟩ := read?_bind_eq_some.mp read
  have start := relationshipStart_of_name known opener behind name
  rw [space, read?_piece] at gap
  rcases read?_optional_eq_some.mp connected with ⟨_, _, connected⟩ | ⟨_, rfl, _⟩
  · have joint : ((do connective; space : Matcher Unit) after).result = some ((), next) := connected
    simp only [endsValue, gap, joint, continuation, start, Bool.or_true]
  · simp only [endsValue, gap, start, Bool.true_or]

/-- The lookahead misses nothing. -/
theorem endsValue_of_goesOn (goes : GoesOn grammar entry text) : endsValue grammar entry text = true := by
  rcases goes with clause | facet | relationship
  · exact endsValue_of_joined continuation_of_condition clause
  · exact endsValue_of_joined continuation_of_nodeFacet facet
  · exact endsValue_of_relationship relationship

/-! So a bare value has nothing in it with which its facet could have gone on. -/

/-- A bare value in front of the rest of a text. At none of its spaces the facet could have gone on. -/
structure Unbroken (grammar : Grammar) (entry : TypeEntry) (said rest : List Char) : Prop where
  nonempty : said ≠ []
  goes : ∀ before after, said = before ++ ' ' :: after → ¬GoesOn grammar entry (' ' :: after ++ rest)
  first : said.head? ≠ some ' '
  last : said.getLast? ≠ some ' '

/-- Of two spaces the second makes no difference to the lookahead. -/
theorem endsValue_spaces : endsValue grammar entry (' ' :: ' ' :: text) =
    endsValue grammar entry (' ' :: text) := by
  have same : readSpace? (' ' :: ' ' :: text) = readSpace? (' ' :: text) := by
    simp [readSpace?, isBlank]
  simp only [endsValue, same]

theorem splitAtStop_of_bare_read {said : String}
    (read : (value grammar entry).read? text = some (.bare said, rest)) :
    splitAtStop (endsValue grammar entry) text = (said.toList, rest) ∧ said.toList ≠ [] := by
  simp only [value, read?_piece, Option.orElse_eq_orElse, Option.orElse_eq_or,
    Option.or_eq_some_iff] at read
  obtain literal | ⟨_, bare⟩ := read
  · -- A literal is no bare value.
    have quoted : ValueText (fun _ _ => False) (.bare said) text rest := literal_of_read literal
    cases quoted
    contradiction
  · unfold readBare? at bare
    split at bare
    · cases bare
    · next taken after nonempty split =>
      simp only [Option.some.injEq, Prod.mk.injEq, Value.bare.injEq] at bare
      obtain ⟨rfl, rfl⟩ := bare
      rw [String.toList_ofList]
      exact ⟨split, nonempty⟩

/-- A bare value begins behind a gap, and the text in which it stands does not end with a space. -/
theorem unbroken_of_bare_read {said : String} (solid : Solid text) (ends : text.getLast? ≠ some ' ')
    (read : (value grammar entry).read? text = some (.bare said, rest)) :
    text = said.toList ++ rest ∧ Unbroken grammar entry said.toList rest := by
  obtain ⟨split, nonempty⟩ := splitAtStop_of_bare_read read
  obtain ⟨whole, goes, bounded⟩ := stops_of_splitAtStop split
  generalize said.toList = said at *
  refine ⟨whole, nonempty, fun before after same => ?_, fun first => ?_, fun last => ?_⟩
  · intro onward
    have stop := endsValue_of_goesOn onward
    rw [goes before after same] at stop
    cases stop
  · obtain ⟨more, rfl⟩ := List.head?_eq_some_iff.mp first
    rw [whole, List.cons_append, solid_cons] at solid
    exact absurd solid (by decide)
  · obtain ⟨init, rfl⟩ := List.getLast?_eq_some_iff.mp last
    rcases bounded with rfl | ⟨space, stop⟩
    · rw [whole, List.append_nil] at ends
      exact ends last
    · -- The lookahead has stopped the value at the space before already.
      obtain ⟨more, rfl⟩ := List.head?_eq_some_iff.mp space
      have before := goes init [] rfl
      rw [List.cons_append, List.nil_append, endsValue_spaces, stop] at before
      cases before

/-! Where a condition has its value. -/

def ValueRead (grammar : Grammar) (entry : TypeEntry) (said : Value) (text rest : List Char) : Prop :=
  ∃ place, place <:+ text ∧ Solid place ∧ (value grammar entry).read? place = some (said, rest)

section Values
variable {said : Value} {middle : List Char}

theorem solid_of_read_space (read : space.read? text = some ((), rest)) : Solid rest := by
  rw [space, read?_piece] at read
  unfold readSpace? at read
  split at read
  · cases read
  · next c more =>
    split at read
    · obtain ⟨_, rfl⟩ := Prod.mk.inj (Option.some.inj read)
      exact List.dropWhile_idempotent isBlank more
    · cases read

theorem ValueRead.mono (read : ValueRead grammar entry said middle rest) (suffix : middle <:+ text) :
    ValueRead grammar entry said text rest := by
  obtain ⟨place, inside, found⟩ := read
  exact ⟨place, inside.trans suffix, found⟩

theorem valueRead_behind_space (gap : space.read? text = some ((), middle))
    (read : (value grammar entry).read? middle = some (said, rest)) :
    ValueRead grammar entry said text rest :=
  ⟨middle, forward_space.rest gap, solid_of_read_space gap, read⟩

theorem valueRead_of_comparison {found : Lookup}
    (read : (comparison grammar entry).read? text = some ((found, said), rest)) :
    ValueRead grammar entry said text rest := by
  simp only [comparison, read?_bind_eq_some] at read
  obtain ⟨_, first, gap, phrase, second, looked, read⟩ := read
  have suffix := (Forward.optional forward_lookup).rest looked
  rcases read?_optional_eq_some.mp looked with ⟨lookup, rfl, _⟩ | ⟨rfl, rfl, _⟩
  · simp only [Option.isSome_some, if_true, read?_bind_eq_some, read?_pure, Option.some.injEq,
      Prod.mk.injEq] at read
    obtain ⟨_, third, behind, _, _, valued, ⟨_, rfl⟩, rfl⟩ := read
    exact (valueRead_behind_space behind valued).mono (suffix.trans (forward_space.rest gap))
  · simp only [Option.isSome_none, Bool.false_eq_true, if_false, read?_bind_eq_some, read?_pure,
      Option.some.injEq, Prod.mk.injEq] at read
    obtain ⟨_, _, valued, ⟨_, rfl⟩, rfl⟩ := read
    exact valueRead_behind_space gap valued

theorem valueRead_of_condition {clause : Clause}
    (read : (condition grammar entry).read? text = some (clause, rest)) :
    ValueRead grammar entry clause.value text rest := by
  simp only [condition, read?_bind_eq_some, read?_orElse, Option.or_eq_some_iff] at read
  obtain ⟨_, first, opened, said⟩ := read
  refine ValueRead.mono ?_ ((Forward.optional forward_conditionOpening).rest opened)
  rcases said with named | ⟨_, implied⟩
  · simp only [namedCondition, read?_bind_eq_some, read?_orElse, Option.or_eq_some_iff, read?_pure,
      Option.some.injEq, Prod.mk.injEq, Prod.exists] at named
    obtain ⟨key, second, named, lookup, value, _, compared, rfl, rfl⟩ := named
    refine ValueRead.mono ?_ ((forward_property entry).rest named)
    rcases compared with ⟨_, third, gap, _, fourth, filler, compared⟩ | ⟨_, compared⟩
    · exact (valueRead_of_comparison compared).mono
        (((forward_word "of").rest filler).trans (forward_space.rest gap))
    · exact valueRead_of_comparison compared
  · unfold impliedCondition at implied
    split at implied
    · cases implied
    · simp only [read?_bind_eq_some, read?_pure, Option.some.injEq, Prod.mk.injEq] at implied
      obtain ⟨_, second, phrase, _, third, gap, value, _, valued, rfl, rfl⟩ := implied
      exact (valueRead_behind_space gap valued).mono (forward_lookup.rest phrase)

end Values

theorem unbroken_of_condition {query : List Char} {clause : Clause} {said : String}
    (inside : text <:+ (ofQuery query).text)
    (read : (condition grammar entry).read? text = some (clause, rest)) (bare : clause.value = .bare said) :
    said.toList ++ rest <:+ text ∧ Unbroken grammar entry said.toList rest := by
  obtain ⟨place, suffix, solid, valued⟩ := valueRead_of_condition read
  rw [bare] at valued
  have ends : place.getLast? ≠ some ' ' := fun last => by
    obtain ⟨before, whole⟩ := suffix.trans inside
    have final : (ofQuery query).text.getLast? = some ' ' := by
      rw [← whole, List.getLast?_append, last, Option.some_or]
    exact absurd (visible_of_getLast? final) (by decide)
  obtain ⟨whole, unbroken⟩ := unbroken_of_bare_read solid ends valued
  exact ⟨whole ▸ suffix, unbroken⟩

/-! What a whole run reads. -/

def ReadsIn {α : Type} (matcher : Matcher α) (text : List Char) (value : α) : Prop :=
  ∃ place rest, place <:+ text ∧ matcher.read? place = some (value, rest)

section Runs
variable {α : Type} {matcher : Matcher α} {value : α} {values : List α} {middle : List Char}

theorem ReadsIn.here (read : matcher.read? text = some (value, rest)) : ReadsIn matcher text value :=
  ⟨text, rest, List.suffix_rfl, read⟩

theorem ReadsIn.mono (reads : ReadsIn matcher middle value) (suffix : middle <:+ text) :
    ReadsIn matcher text value := by
  obtain ⟨place, rest, inside, read⟩ := reads
  exact ⟨place, rest, inside.trans suffix, read⟩

theorem readsIn_of_many (forward : Forward matcher)
    (read : (many matcher).read? text = some (values, rest)) :
    ∀ value ∈ values, ReadsIn matcher text value := by
  -- On how much text there is, since a repetition goes on only with less of it.
  induction size : text.length using Nat.strongRecOn generalizing text values with
  | ind size ih =>
    rw [read?_many] at read
    split at read
    · obtain ⟨rfl, _⟩ := Prod.mk.inj (Option.some.inj read)
      simp
    · next value middle found =>
      split at read
      · next shorter =>
        simp only [Option.map_eq_some_iff, Prod.mk.injEq, Prod.exists] at read
        obtain ⟨more, after, others, rfl, rfl⟩ := read
        refine List.forall_mem_cons.mpr ⟨.here found, fun other member => ?_⟩
        exact (ih _ (size ▸ shorter) others rfl other member).mono (forward.rest found)
      · obtain ⟨rfl, _⟩ := Prod.mk.inj (Option.some.inj read)
        simp

theorem ReadsIn.of_joined (reads : ReadsIn (joined matcher) text value) : ReadsIn matcher text value := by
  obtain ⟨place, rest, inside, read⟩ := reads
  simp only [joined, read?_bind_eq_some] at read
  obtain ⟨_, first, before, _, second, connected, _, third, behind, found⟩ := read
  refine (ReadsIn.here found).mono ?_
  exact (forward_space.rest behind).trans
    ((forward_connective.rest connected).trans ((forward_space.rest before).trans inside))

theorem readsIn_of_conditions {clauses : List Clause}
    (read : (conditions grammar entry).read? text = some (clauses, rest)) :
    ∀ clause ∈ clauses, ReadsIn (condition grammar entry) text clause := by
  simp only [conditions, read?_bind_eq_some, read?_optional_eq_some, read?_pure, Option.some.injEq,
    Prod.mk.injEq] at read
  obtain ⟨_, _, ⟨_, rfl, found⟩ | ⟨rfl, rfl, _⟩, rfl, rfl⟩ := read
  · obtain ⟨_, second, gap, first, third, said, more, _, others, rfl, rfl⟩ := found
    have behind := forward_space.rest gap
    refine List.forall_mem_cons.mpr ⟨(ReadsIn.here said).mono behind, fun clause member => ?_⟩
    have joined := readsIn_of_many (forward_joined forward_condition) others clause member
    exact joined.of_joined.mono ((forward_condition.rest said).trans behind)
  · simp

theorem readsIn_of_nodeFacet {facet : Facet} (reads : ReadsIn (nodeFacet grammar entry) text facet) :
    entry.id = facet.typeId ∧ ∀ clause ∈ facet.clauses, ReadsIn (condition grammar entry) text clause := by
  obtain ⟨place, rest, inside, read⟩ := reads
  simp only [nodeFacet, read?_bind_eq_some, read?_pure, Option.some.injEq, Prod.mk.injEq] at read
  obtain ⟨keys, first, projected, _, second, named, clauses, _, said, rfl, rfl⟩ := read
  refine ⟨rfl, fun clause member => (readsIn_of_conditions said clause member).mono ?_⟩
  exact ((forward_typeName entry).rest named).trans
    (((Forward.optional (forward_projection entry)).rest projected).trans inside)

theorem readsIn_of_group {facets : List Facet}
    (read : (group grammar).read? text = some (facets, rest)) :
    ∃ entry ∈ grammar.nodeEntries, ∀ facet ∈ facets, ReadsIn (nodeFacet grammar entry) text facet := by
  simp only [group, anyNodeFacet, read?_bind_eq_some, read?_furthestOf, read?_pure,
    Option.some.injEq, Prod.mk.injEq, Prod.exists] at read
  obtain ⟨winner, first, middle, selected, more, _, others, rfl, rfl⟩ := read
  obtain ⟨matcher, member, accepted⟩ := List.mem_map.mp (mem_of_longest selected)
  obtain ⟨entry, listed, rfl⟩ := List.mem_map.mp member
  simp only [read?_bind_eq_some, read?_pure, Option.some.injEq, Prod.mk.injEq] at accepted
  obtain ⟨facet, _, found, ⟨rfl, rfl⟩, rfl⟩ := accepted
  refine ⟨entry, listed, List.forall_mem_cons.mpr ⟨.here found, fun other member => ?_⟩⟩
  have joined := readsIn_of_many (forward_joined forward_nodeFacet) others other member
  exact joined.of_joined.mono (forward_nodeFacet.rest found)

theorem readsIn_of_hop {found : Hop} (reads : ReadsIn (hop grammar) text found) :
    ∃ entry ∈ grammar.nodeEntries, ∀ facet ∈ found.targets,
      ReadsIn (nodeFacet grammar entry) text facet := by
  obtain ⟨place, rest, inside, read⟩ := reads
  simp only [hop, read?_bind_eq_some, read?_pure, Option.some.injEq, Prod.mk.injEq] at read
  obtain ⟨_, first, gap, relation, second, related, _, third, behind, targets, _, grouped, rfl,
    rfl⟩ := read
  obtain ⟨entry, listed, each⟩ := readsIn_of_group grouped
  refine ⟨entry, listed, fun facet member => (each facet member).mono ?_⟩
  exact (forward_space.rest behind).trans
    ((forward_anyRelationshipFacet.rest related).trans ((forward_space.rest gap).trans inside))

end Runs

def Tree.facets (tree : Tree) : List Facet :=
  tree.sources ++ tree.hops.flatMap (·.targets)

theorem readsIn_of_tree {found : Tree} (read : (tree grammar).read? text = some (found, rest)) :
    ∀ facet ∈ found.facets, ∃ entry ∈ grammar.nodeEntries,
      ReadsIn (nodeFacet grammar entry) text facet := by
  simp only [tree, read?_bind_eq_some, read?_pure, Option.some.injEq, Prod.mk.injEq] at read
  obtain ⟨sources, first, grouped, hops, second, repeated, _, _, ended, rfl, rfl⟩ := read
  refine List.forall_mem_append.mpr ⟨?_, List.forall_mem_flatMap.mpr fun hop member => ?_⟩
  · obtain ⟨entry, listed, each⟩ := readsIn_of_group grouped
    exact fun facet member => ⟨entry, listed, each facet member⟩
  · have reads := readsIn_of_many forward_hop repeated hop member
    obtain ⟨entry, listed, each⟩ := readsIn_of_hop (reads.mono (forward_group.rest grouped))
    exact fun facet member => ⟨entry, listed, each facet member⟩

/-- The lookahead misses nothing with which a facet, its group or a hop goes on. So a bare value of a condition is
unbroken, wherever in a normalized query the condition is read, and a plan is made of such conditions. -/
theorem lookahead_of_bare_values :
    (∀ (grammar : Grammar) (entry : TypeEntry) (text : List Char),
      GoesOn grammar entry text → endsValue grammar entry text = true) ∧
    (∀ (grammar : Grammar) (entry : TypeEntry) (query text rest : List Char) (clause : Clause)
        (said : String),
      text <:+ (ofQuery query).text → (condition grammar entry).read? text = some (clause, rest) →
        clause.value = .bare said →
          said.toList ++ rest <:+ text ∧ Unbroken grammar entry said.toList rest) ∧
    ∀ (parser : Parser) (query : String) (plan : Plan), parser.parse query = .ok plan →
      (ofQuery query.toList).text = [] ∧ plan = ∅ ∨
        ∃ found labels, (tree parser.grammar).read? (ofQuery query.toList).text = some (found, []) ∧
          Plan.ofTree parser.grammar found .fresh = .ok (plan, labels) ∧
          ∀ facet ∈ found.facets, ∃ entry ∈ parser.grammar.nodeEntries, entry.id = facet.typeId ∧
            ∀ clause ∈ facet.clauses, ∃ text rest, text <:+ (ofQuery query.toList).text ∧
              (condition parser.grammar entry).read? text = some (clause, rest) ∧
              ∀ said, clause.value = .bare said →
                said.toList ++ rest <:+ text ∧ Unbroken parser.grammar entry said.toList rest := by
  refine ⟨fun _ _ _ => endsValue_of_goesOn, fun _ _ _ _ _ _ _ => unbroken_of_condition,
    fun parser query plan parsed => ?_⟩
  rcases (Parser.parse_eq_ok.mp parsed).2 with empty | ⟨_, found, labels, read, reduced⟩
  · exact .inl empty
  refine .inr ⟨found, labels, read, reduced, fun facet member => ?_⟩
  obtain ⟨entry, listed, reads⟩ := readsIn_of_tree read facet member
  obtain ⟨same, clauses⟩ := readsIn_of_nodeFacet reads
  refine ⟨entry, listed, same, fun clause inside => ?_⟩
  obtain ⟨text, rest, suffix, said⟩ := clauses clause inside
  exact ⟨text, rest, suffix, said, fun _ => unbroken_of_condition suffix said⟩

theorem lookahead_of_bare_values_town :
    ∃ entry ∈ Parser.townParser.grammar.nodeEntries, ∃ plan,
      GoesOn Parser.townParser.grammar entry " and age 3".toList ∧
      endsValue Parser.townParser.grammar entry " and age 3".toList = true ∧
      "name Ada or Bob and age 3".toList <:+
        (ofQuery "Person with name Ada or Bob and age 3".toList).text ∧
      (condition Parser.townParser.grammar entry).read? "name Ada or Bob and age 3".toList =
        some (⟨"name", defaultLookup, .bare "Ada or Bob"⟩, " and age 3".toList) ∧
      Unbroken Parser.townParser.grammar entry "Ada or Bob".toList " and age 3".toList ∧
      Parser.townParser.parse "Person with name Ada or Bob and age 3" = .ok plan ∧
      ∃ found labels,
        (tree Parser.townParser.grammar).read?
          (ofQuery "Person with name Ada or Bob and age 3".toList).text = some (found, []) ∧
        Plan.ofTree Parser.townParser.grammar found .fresh = .ok (plan, labels) := by
  obtain ⟨missed, values, runs⟩ := lookahead_of_bare_values
  obtain ⟨entry, member, goes, read⟩ : ∃ entry ∈ Parser.townParser.grammar.nodeEntries,
      (joined (condition Parser.townParser.grammar entry)).accepts " and age 3".toList = true ∧
        (condition Parser.townParser.grammar entry).read? "name Ada or Bob and age 3".toList =
          some (⟨"name", defaultLookup, .bare "Ada or Bob"⟩, " and age 3".toList) := by
    decide +kernel
  have inside : "name Ada or Bob and age 3".toList <:+
      (ofQuery "Person with name Ada or Bob and age 3".toList).text :=
    ⟨"Person with ".toList, by decide⟩
  obtain ⟨plan, parsed⟩ := Parser.exists_plan
    (show (Parser.townParser.parse "Person with name Ada or Bob and age 3").toOption.isSome = true by
      decide +kernel)
  refine ⟨entry, member, plan, .inl goes, missed _ _ _ (.inl goes), inside, read,
    (values _ _ _ _ _ _ _ inside read rfl).2, parsed, ?_⟩
  rcases runs _ _ _ parsed with ⟨empty, _⟩ | ⟨found, labels, read, reduced, _⟩
  · exact absurd empty (by decide)
  · exact ⟨found, labels, read, reduced⟩

end GraphQuery.Query
