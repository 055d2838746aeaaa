import GraphQuery.Proofs.Query.Language
import GraphQuery.Proofs.Query.Readings
import GraphQuery.Query.Productions
import Mathlib.Data.List.Basic
import Mathlib.Data.List.TakeWhile

/-! Whatever a matcher reads belongs to the language.

There is one statement for each production: if its matcher reads something up to `rest`, then the
span of the production leads to `rest`, and the part of the tree is the one that was returned. -/

set_option autoImplicit false

namespace GraphQuery.Query

open Text Grammar Query.Language Matcher

variable {text rest : List Char}

/-! The smallest pieces. -/

theorem word_of_read {expected : String}
    (read : (word expected).read? text = some ((), rest)) : Word expected text rest := by
  simp only [word, read?_piece, readWord?] at read
  split at read
  · next found =>
    simp only [Option.some.injEq, Prod.mk.injEq, true_and] at read
    subst read
    rw [Bool.and_eq_true] at found
    exact ⟨_, (List.take_append_drop _ text).symm, found.1, found.2⟩
  · cases read

theorem exists_word_of_read {words : List String}
    (read : (anyWord words).read? text = some ((), rest)) : OneOf words text rest := by
  rw [anyWord, read?_firstOf] at read
  obtain ⟨matcher, member, found⟩ := List.exists_of_findSome?_eq_some read
  obtain ⟨expected, listed, rfl⟩ := List.mem_map.mp member
  exact ⟨expected, listed, word_of_read found⟩

theorem gap_of_readSpace (read : readSpace? text = some ((), rest)) :
    Gap text rest := by
  cases text with
  | nil => cases read
  | cons c text =>
    simp only [readSpace?] at read
    split at read
    · next blank =>
      simp only [Option.some.injEq, Prod.mk.injEq, true_and] at read
      subst read
      refine ⟨c :: text.takeWhile isBlank, by simp, ?_, ?_⟩
      · intro d member
        rcases List.mem_cons.mp member with same | member
        · exact same ▸ blank
        · exact List.mem_takeWhile_imp member
      · rw [List.cons_append, List.takeWhile_append_dropWhile]
    · cases read

theorem gap_of_read (read : space.read? text = some ((), rest)) : Gap text rest := by
  rw [space, read?_piece] at read
  exact gap_of_readSpace read

theorem eq_nil_of_read (read : endOfQuery.read? text = some ((), rest)) :
    text = [] ∧ rest = [] := by
  simp only [endOfQuery, read?_piece, readEnd?] at read
  split at read
  · next empty =>
    simp only [Option.some.injEq, Prod.mk.injEq, true_and] at read
    exact ⟨empty, read ▸ empty⟩
  · cases read

theorem phrase_of_read {words : List String}
    (read : (phrase words).read? text = some ((), rest)) : Phrase words text rest := by
  induction words generalizing text with
  | nil =>
    simp only [phrase, read?_pure, Option.some.injEq, Prod.mk.injEq, true_and] at read
    exact read
  | cons first others ih =>
    cases others with
    | nil => exact word_of_read read
    | cons second others =>
      simp only [phrase, read?_bind_eq_some] at read
      obtain ⟨_, afterWord, first, _, afterGap, gap, others⟩ := read
      exact ⟨afterWord, word_of_read first, afterGap, gap_of_read gap, ih others⟩

theorem lookupPhrase_of_read {found : Lookup} (read : lookup.read? text = some (found, rest)) :
    LookupPhrase found text rest := by
  rw [lookup, read?_firstOf] at read
  obtain ⟨matcher, member, accepted⟩ := List.exists_of_findSome?_eq_some read
  obtain ⟨⟨words, meaning⟩, listed, rfl⟩ := List.mem_map.mp member
  simp only [read?_bind_eq_some, read?_pure, Option.some.injEq, Prod.mk.injEq] at accepted
  obtain ⟨_, middle, words_read, rfl, rfl⟩ := accepted
  exact ⟨words, listed, phrase_of_read words_read⟩

theorem name_of_readForm {forms : List (List Char)} {form : List Char}
    (read : readForm? forms text = some (form, rest)) :
    form ∈ forms ∧ text = form ++ rest ∧ wordEnds form rest = true := by
  obtain ⟨candidate, member, read⟩ := List.exists_of_findSome?_eq_some read
  obtain ⟨after, split, ends⟩ := Option.bind_eq_some_iff.mp read
  split at ends
  · next boundary =>
    simp only [Option.some.injEq, Prod.mk.injEq] at ends
    obtain ⟨rfl, rfl⟩ := ends
    exact ⟨member, (List.isPrefixOf?_eq_some_iff_append_eq.mp split).symm, boundary⟩
  · cases ends

theorem name_of_read {entry : TypeEntry}
    (read : (typeName entry).read? text = some ((), rest)) : Name entry.forms text rest := by
  simp only [typeName, read?_piece, Option.map_eq_some_iff] at read
  obtain ⟨⟨form, after⟩, read, same⟩ := read
  simp only [Prod.mk.injEq, true_and] at same
  subst same
  exact ⟨form, name_of_readForm read⟩

theorem key_of_read {entry : TypeEntry} {key : String}
    (read : (property entry).read? text = some (key, rest)) : Key entry key text rest := by
  rw [property, read?_piece] at read
  obtain ⟨candidate, member, found⟩ := List.mem_map.mp (mem_of_longest read)
  simp only [Option.map_eq_some_iff, Prod.mk.injEq] at found
  obtain ⟨⟨form, after⟩, form_read, same, rfl⟩ := found
  exact ⟨candidate, member, same, form, name_of_readForm form_read⟩

theorem blanks_dropWhile (text : List Char) : Optional Gap text (text.dropWhile isBlank) := by
  cases blanks : text.takeWhile isBlank with
  | nil =>
    have split := List.takeWhile_append_dropWhile (p := isBlank) (l := text)
    rw [blanks, List.nil_append] at split
    exact .inl split.symm
  | cons c more =>
    refine .inr ⟨text.takeWhile isBlank, by simp [blanks], ?_, ?_⟩
    · exact fun d member => List.mem_takeWhile_imp member
    · exact List.takeWhile_append_dropWhile.symm

theorem comma_of_read (read : comma.read? text = some ((), rest)) :
    Sequence [Optional Gap, Sign ',', Optional Gap] text rest := by
  simp only [comma, read?_piece, readComma?] at read
  split at read
  · next after begins =>
    simp only [Option.some.injEq, Prod.mk.injEq, true_and] at read
    subst read
    exact ⟨_, blanks_dropWhile text, after, begins, blanks_dropWhile after⟩
  · cases read

theorem listSeparator_of_read (read : listSeparator.read? text = some ((), rest)) :
    ListSeparator text rest := by
  rw [listSeparator, read?_orElse, Option.or_eq_some_iff] at read
  rcases read with read | ⟨_, read⟩
  · exact .inl (comma_of_read read)
  · simp only [read?_bind_eq_some] at read
    obtain ⟨_, first, gap, _, second, and, last⟩ := read
    exact .inr ⟨first, gap_of_read gap, second, word_of_read and, gap_of_read last⟩

/-! Combined matchers. -/

section Combined
variable {α : Type} {matcher : Matcher α} {span : Span} {item : α → Span}

theorem optional_of_read (sound : ∀ {text rest : List Char} {value : α},
      matcher.read? text = some (value, rest) → span text rest)
    {found : Option α} (read : matcher.optional.read? text = some (found, rest)) :
    Optional span text rest := by
  rcases read?_optional_eq_some.mp read with ⟨_, _, accepted⟩ | ⟨_, same, _⟩
  · exact .inr (sound accepted)
  · exact .inl same

theorem repeated_of_read (sound : ∀ {text rest : List Char} {value : α},
      matcher.read? text = some (value, rest) → item value text rest)
    {values : List α} (read : read? (many matcher) text = some (values, rest)) :
    Repeated item values text rest := by
  -- On how much text there is, since a repetition goes on only with less of it.
  induction size : text.length using Nat.strongRecOn generalizing text values with
  | ind size ih =>
    rw [read?_many] at read
    split at read
    · simp only [Option.some.injEq, Prod.mk.injEq] at read
      obtain ⟨rfl, rfl⟩ := read
      exact .nil
    · next value middle accepted =>
      split at read
      · next shorter =>
        simp only [Option.map_eq_some_iff, Prod.mk.injEq, Prod.exists] at read
        obtain ⟨more, after, others, rfl, rfl⟩ := read
        exact .cons (sound accepted) (ih _ (size ▸ shorter) others rfl)
      · simp only [Option.some.injEq, Prod.mk.injEq] at read
        obtain ⟨rfl, rfl⟩ := read
        exact .nil

theorem joined_of_read (sound : ∀ {text rest : List Char} {value : α},
      matcher.read? text = some (value, rest) → item value text rest)
    {value : α} (read : (joined matcher).read? text = some (value, rest)) :
    Sequence [Joint, item value] text rest := by
  simp only [joined, read?_bind_eq_some] at read
  obtain ⟨_, first, before, _, second, connected, _, third, behind, accepted⟩ := read
  exact ⟨third, ⟨first, gap_of_read before, second, exists_word_of_read connected,
    gap_of_read behind⟩, sound accepted⟩

end Combined

/-! Productions. -/

variable {grammar : Grammar} {entry : TypeEntry}

theorem keyList_of_read {keys : List String}
    (read : (propertyList entry).read? text = some (keys, rest)) : KeyList entry keys text rest := by
  simp only [propertyList, read?_bind_eq_some, read?_pure, Option.some.injEq, Prod.mk.injEq] at read
  obtain ⟨first, middle, named, more, _, others, rfl, rfl⟩ := read
  refine .mk (key_of_read named) (repeated_of_read (fun accepted => ?_) others)
  simp only [read?_bind_eq_some] at accepted
  obtain ⟨_, after, separated, named⟩ := accepted
  exact ⟨after, listSeparator_of_read separated, key_of_read named⟩

theorem projection_of_read {keys : List String}
    (read : (projection entry).read? text = some (keys, rest)) :
    ProjectionText entry (some keys) text rest := by
  simp only [projection, read?_bind_eq_some, read?_pure, Option.some.injEq, Prod.mk.injEq] at read
  obtain ⟨_, first, listed, _, second, gap, _, third, joiner, _, fourth, behind, _, _, the, rfl, rfl⟩ :=
    read
  refine ⟨first, keyList_of_read listed, second, gap_of_read gap, third, exists_word_of_read joiner,
    fourth, gap_of_read behind, optional_of_read (fun accepted => ?_) the⟩
  simp only [read?_bind_eq_some] at accepted
  obtain ⟨_, after, word, gap⟩ := accepted
  exact ⟨after, word_of_read word, gap_of_read gap⟩

theorem literal_of_read {value : Value} {bare : Span} (read : readLiteral? text = some (value, rest)) :
    ValueText bare value text rest := by
  cases text with
  | nil => cases read
  | cons quote text =>
    simp only [readLiteral?] at read
    split at read
    · next opens =>
      split at read
      · cases read
      · next last after closes =>
        simp only [Option.some.injEq, Prod.mk.injEq] at read
        obtain ⟨rfl, rfl⟩ := read
        -- What was not passed over is the closing quote.
        have stops : last = quote := by
          have notPassed := List.head?_dropWhile_not (· != quote) text
          rw [closes] at notPassed
          simpa using notPassed
        have whole := List.takeWhile_append_dropWhile (p := (· != quote)) (l := text)
        rw [closes, stops] at whole
        have inside : quote ∉ text.takeWhile (· != quote) :=
          fun member => by simpa using List.mem_takeWhile_imp member
        have opens : quote = '"' ∨ quote = '\'' := by simpa using opens
        have span : ValueText bare (.literal quote (.ofList (text.takeWhile (· != quote))))
            (quote :: (text.takeWhile (· != quote) ++ quote :: after)) after :=
          .literal opens inside
        rwa [whole] at span
    · cases read

theorem splitAtStop_append (stops : List Char → Bool) (text : List Char) :
    (splitAtStop stops text).1 ++ (splitAtStop stops text).2 = text := by
  induction text with
  | nil => rfl
  | cons c text ih =>
    rw [splitAtStop]
    split
    · rfl
    · exact congrArg (c :: ·) ih

theorem value_of_read {value : Value} {cue : Cue}
    (read : (Query.value grammar entry).read? text = some (value, rest)) :
    ValueText (anyBare entry cue) value text rest := by
  simp only [Query.value, read?_piece, Option.orElse_eq_orElse, Option.orElse_eq_or,
    Option.or_eq_some_iff] at read
  rcases read with literal | ⟨_, bare⟩
  · exact literal_of_read literal
  · unfold readBare? at bare
    have whole := splitAtStop_append (endsValue grammar entry) text
    split at bare
    · cases bare
    · next taken after nonempty split =>
      simp only [Option.some.injEq, Prod.mk.injEq] at bare
      obtain ⟨rfl, rfl⟩ := bare
      rw [split] at whole
      rw [← whole]
      exact .bare nonempty trivial

theorem opening_of_read (read : conditionOpening.read? text = some ((), rest)) :
    Opening text rest := by
  simp only [conditionOpening, read?_bind_eq_some] at read
  obtain ⟨_, first, word, _, second, article, behind⟩ := read
  refine ⟨first, word_of_read word, second, optional_of_read (fun accepted => ?_) article,
    gap_of_read behind⟩
  simp only [read?_bind_eq_some] at accepted
  obtain ⟨_, after, gap, article⟩ := accepted
  exact ⟨after, gap_of_read gap, exists_word_of_read article⟩

theorem comparison_of_read (cue : Cue) {found : Lookup} {value : Value}
    (read : (comparison grammar entry).read? text = some ((found, value), rest)) :
    (found = defaultLookup ∧ Sequence [Gap, ValueText (anyBare entry cue) value] text rest) ∨
      Sequence [Gap, LookupPhrase found, Gap, ValueText (anyBare entry .lookup) value] text rest := by
  simp only [comparison, read?_bind_eq_some, read?_optional_eq_some] at read
  obtain ⟨_, first, gap, _, second, ⟨lookup, rfl, phrase⟩ | ⟨rfl, rfl, _⟩, read⟩ := read
  -- A lookup phrase was read.
  · simp only [Option.isSome_some, if_true, read?_bind_eq_some, read?_pure, Option.some.injEq,
      Prod.mk.injEq, Option.getD_some] at read
    obtain ⟨_, third, behind, value, _, valued, ⟨rfl, rfl⟩, rfl⟩ := read
    exact .inr ⟨first, gap_of_read gap, second, lookupPhrase_of_read phrase, third,
      gap_of_read behind, value_of_read valued⟩
  -- None was read, so the value follows at once.
  · simp only [Option.isSome_none, Bool.false_eq_true, if_false, read?_bind_eq_some, read?_pure,
      Option.some.injEq, Prod.mk.injEq, Option.getD_none] at read
    obtain ⟨value, _, valued, ⟨rfl, rfl⟩, rfl⟩ := read
    exact .inl ⟨rfl, first, gap_of_read gap, value_of_read valued⟩

def Core (bare : BareRule) (entry : TypeEntry) (clause : Clause) : Span :=
  fun text rest => ∃ cue, Sequence [Introduction entry cue clause.key clause.lookup,
    ValueText (bare entry cue) clause.value] text rest

theorem namedCondition_of_read {clause : Clause}
    (read : (namedCondition grammar entry).read? text = some (clause, rest)) :
    Core anyBare entry clause text rest := by
  simp only [namedCondition, read?_bind_eq_some, read?_orElse, Option.or_eq_some_iff, read?_pure,
    Option.some.injEq, Prod.mk.injEq, Prod.exists] at read
  obtain ⟨key, first, named, lookup, value, _, compared, rfl, rfl⟩ := read
  have key := key_of_read named
  -- With the filler `of` behind the property, or without it.
  rcases compared with ⟨_, second, gap, _, third, filler, compared⟩ | ⟨_, compared⟩
  · rcases comparison_of_read .filler compared with
      ⟨rfl, fourth, behind, value⟩ | ⟨fourth, behind, fifth, phrase, sixth, last, value⟩
    · exact ⟨.filler, fourth, .filler ⟨first, key, second, gap_of_read gap, third,
        word_of_read filler, behind⟩, value⟩
    · exact ⟨.lookup, sixth, .lookup ⟨first, key, third, .inr ⟨second, gap_of_read gap,
        word_of_read filler⟩, fourth, behind, fifth, phrase, last⟩, value⟩
  · rcases comparison_of_read .property compared with
      ⟨rfl, second, behind, value⟩ | ⟨second, behind, third, phrase, fourth, last, value⟩
    · exact ⟨.property, second, .property ⟨first, key, behind⟩, value⟩
    · exact ⟨.lookup, fourth, .lookup ⟨first, key, first, .inl rfl, second, behind, third, phrase,
        last⟩, value⟩

theorem impliedCondition_of_read {clause : Clause}
    (read : (impliedCondition grammar entry).read? text = some (clause, rest)) :
    Core anyBare entry clause text rest := by
  unfold impliedCondition at read
  split at read
  · cases read
  · next only single =>
    simp only [read?_bind_eq_some, read?_pure, Option.some.injEq, Prod.mk.injEq] at read
    obtain ⟨lookup, first, phrase, _, second, gap, value, _, valued, rfl, rfl⟩ := read
    have alone : entry.properties = [only] := by
      unfold TypeEntry.onlyProperty? at single
      split at single
      · next same => rw [same, Option.some.inj single]
      · cases single
    exact ⟨.lookup, second, .implied alone ⟨first, lookupPhrase_of_read phrase, gap_of_read gap⟩,
      value_of_read valued⟩

theorem clause_of_read {clause : Clause}
    (read : (condition grammar entry).read? text = some (clause, rest)) :
    ClauseText anyBare entry clause text rest := by
  simp only [condition, read?_bind_eq_some, read?_orElse, Option.or_eq_some_iff] at read
  obtain ⟨_, first, opened, core⟩ := read
  have opening : Optional Opening text first := optional_of_read opening_of_read opened
  have core : Core anyBare entry clause first rest := by
    rcases core with named | ⟨_, implied⟩
    · exact namedCondition_of_read named
    · exact impliedCondition_of_read implied
  obtain ⟨cue, second, introduction, value⟩ := core
  exact .mk ⟨first, opening, second, introduction, value⟩

theorem clauses_of_read {clauses : List Clause}
    (read : (conditions grammar entry).read? text = some (clauses, rest)) :
    ClausesText anyBare entry clauses text rest := by
  simp only [conditions, read?_bind_eq_some, read?_optional_eq_some, read?_pure, Option.some.injEq,
    Prod.mk.injEq] at read
  obtain ⟨_, _, ⟨_, rfl, found⟩ | ⟨rfl, rfl, _⟩, rfl, rfl⟩ := read
  · obtain ⟨_, second, gap, first, third, condition, more, _, others, rfl, rfl⟩ := found
    exact .some ⟨second, gap_of_read gap, .mk (clause_of_read condition)
      (repeated_of_read (joined_of_read clause_of_read) others)⟩
  · exact .none

theorem facet_of_read {facet : Facet}
    (read : (nodeFacet grammar entry).read? text = some (facet, rest)) :
    FacetText anyBare entry facet text rest := by
  simp only [nodeFacet, read?_bind_eq_some, read?_optional_eq_some, read?_pure, Option.some.injEq,
    Prod.mk.injEq] at read
  obtain ⟨keys, first, projected, _, second, named, clauses, _, conditions, rfl, rfl⟩ := read
  refine .mk ⟨first, ?_, second, name_of_read named, clauses_of_read conditions⟩
  rcases projected with ⟨listed, rfl, projected⟩ | ⟨rfl, rfl, _⟩
  · exact projection_of_read projected
  · rfl

theorem group_of_read {facets : List Facet}
    (read : (group grammar).read? text = some (facets, rest)) :
    GroupText anyBare grammar facets text rest := by
  simp only [group, anyNodeFacet, read?_bind_eq_some, read?_furthestOf, read?_pure,
    Option.some.injEq, Prod.mk.injEq, Prod.exists] at read
  -- The type that read the first facet furthest is the type of the group.
  obtain ⟨winner, first, middle, selected, more, _, others, rfl, rfl⟩ := read
  obtain ⟨matcher, member, accepted⟩ := List.mem_map.mp (mem_of_longest selected)
  obtain ⟨entry, listed, rfl⟩ := List.mem_map.mp member
  simp only [read?_bind_eq_some, read?_pure, Option.some.injEq, Prod.mk.injEq] at accepted
  obtain ⟨facet, _, facet_read, ⟨rfl, rfl⟩, rfl⟩ := accepted
  exact ⟨entry, listed, .mk (facet_of_read facet_read)
    (repeated_of_read (joined_of_read facet_of_read) others)⟩

theorem relation_of_read {relation : TypeId}
    (read : (anyRelationshipFacet grammar).read? text = some (relation, rest)) {before : List Char}
    (gap : Gap before text) : RelationText grammar relation before rest := by
  rw [anyRelationshipFacet, read?_furthestOf] at read
  obtain ⟨matcher, member, accepted⟩ := List.mem_map.mp (mem_of_longest read)
  obtain ⟨entry, listed, rfl⟩ := List.mem_map.mp member
  simp only [relationshipFacet, read?_bind_eq_some, read?_pure, Option.some.injEq,
    Prod.mk.injEq] at accepted
  obtain ⟨_, first, connected, _, second, opener, _, third, behind, _, fourth, name, _, _, article,
    same, rfl⟩ := accepted
  refine ⟨entry, listed, same, text, gap, first, optional_of_read (fun accepted => ?_) connected,
    second, exists_word_of_read opener, third, gap_of_read behind, fourth, name_of_read name,
    optional_of_read (fun accepted => ?_) article⟩
  · simp only [read?_bind_eq_some] at accepted
    obtain ⟨_, after, connective, gap⟩ := accepted
    exact ⟨after, exists_word_of_read connective, gap_of_read gap⟩
  · simp only [read?_bind_eq_some] at accepted
    obtain ⟨_, after, gap, article⟩ := accepted
    exact ⟨after, gap_of_read gap, exists_word_of_read article⟩

theorem hop_of_read {found : Hop} (read : (hop grammar).read? text = some (found, rest)) :
    HopText anyBare grammar found text rest := by
  simp only [hop, read?_bind_eq_some, read?_pure, Option.some.injEq, Prod.mk.injEq] at read
  obtain ⟨_, first, gap, relation, second, related, _, third, behind, targets, _, grouped, rfl,
    rfl⟩ := read
  exact .mk ⟨second, relation_of_read related (gap_of_read gap), third, gap_of_read behind,
    group_of_read grouped⟩

theorem tree_of_read {found : Tree} (read : (tree grammar).read? text = some (found, rest)) :
    TreeText anyBare grammar found text [] ∧ rest = [] := by
  simp only [tree, read?_bind_eq_some, read?_pure, Option.some.injEq, Prod.mk.injEq] at read
  obtain ⟨sources, first, grouped, hops, second, repeated, _, _, ended, rfl, rfl⟩ := read
  obtain ⟨rfl, rfl⟩ := eq_nil_of_read ended
  exact ⟨.mk ⟨first, group_of_read grouped, repeated_of_read hop_of_read repeated⟩, rfl⟩

end GraphQuery.Query
