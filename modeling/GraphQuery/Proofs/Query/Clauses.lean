import GraphQuery.Proofs.Query.Clarity
import GraphQuery.Proofs.Query.Progress

/-! Projections and conditions are read as they were meant, over a clear vocabulary.

There is one statement for each production: if its span leads from a text to `rest`, and `rest` is
something that may follow, then its matcher reads that part and leaves `rest`. -/

set_option autoImplicit false

namespace GraphQuery.Query

open Text Grammar Query.Language Matcher

variable {grammar : Grammar} {entry : TypeEntry} {text rest : List Char}

/-! Repetitions. -/

section Repetition
variable {α : Type} {matcher : Matcher α} {item : α → Span}

theorem read_many (allowed : α → α → Prop) (after : α → List Char → Prop) {values : List α}
    (reads : ∀ {value : α} {text middle : List Char}, item value text middle → after value middle →
      matcher.read? text = some (value, middle))
    (shorter : ∀ {value : α} {text middle : List Char}, item value text middle →
      middle.length < text.length)
    (begins : ∀ {first second : α} {text middle : List Char}, allowed first second →
      item second text middle → after first text)
    (final : ∀ {value : α}, after value rest) (stop : matcher.read? rest = none)
    (spelled : Repeated item values text rest) (chain : values.IsChain allowed) :
    read? (many matcher) text = some (values, rest) := by
  -- On the items: each is followed by the next one, and the last one by `rest`.
  induction spelled with
  | nil => exact read?_many_of_eq_none stop
  | @cons value more text middle rest said others ih =>
    have follows : after value middle := by
      cases others with
      | nil => exact final
      | cons next _ => exact begins (List.isChain_cons_cons.mp chain).1 next
    rw [read?_many, reads said follows]
    simp only [if_pos (shorter said), ih final stop chain.of_cons, Option.map_some]

theorem read_repeated (follows : List Char → Prop) {values : List α}
    (reads : ∀ {value : α} {text middle : List Char}, item value text middle → follows middle →
      matcher.read? text = some (value, middle))
    (shorter : ∀ {value : α} {text middle : List Char}, item value text middle →
      middle.length < text.length)
    (begins : ∀ {value : α} {text middle : List Char}, item value text middle → follows text)
    (final : follows rest) (stop : matcher.read? rest = none)
    (spelled : Repeated item values text rest) : read? (many matcher) text = some (values, rest) :=
  read_many (fun _ _ => True) (fun _ => follows) reads shorter (fun _ said => begins said) final stop
    spelled (List.pairwise_of_forall fun _ _ => trivial).isChain

theorem read_optional {span : Span}
    (reads : span text rest → ∃ value, matcher.read? text = some (value, rest))
    (refused : text = rest → matcher.read? text = none) (said : Optional span text rest) :
    ∃ found, matcher.optional.read? text = some (found, rest) := by
  rcases said with rfl | said
  · exact ⟨none, read?_optional_of_eq_none (refused rfl)⟩
  · obtain ⟨value, read⟩ := reads said
    exact ⟨some value, read?_optional_of_eq_some read⟩

end Repetition

def Joiner : Span :=
  Sequence [Gap, OneOf projectionJoiners, Gap, Optional (Sequence [Word "the", Gap])]

section Node
variable (clear : Clear grammar) (member : entry ∈ grammar.nodeEntries)
include clear member

/-! Projections. -/

omit clear member in
theorem listSeparator_refused (joined : Starts (Sequence [Gap, OneOf projectionJoiners]) text) :
    listSeparator.read? text = none := by
  obtain ⟨_, middle, gap, joiner⟩ := joined
  obtain ⟨word, listed, begins, _⟩ := fixed_of_oneOf joiners_fixed joiner
  have other : ¬ Fixed "and" middle := by
    intro and
    obtain rfl := and.unique begins
    exact absurd listed (by decide)
  rw [listSeparator, read?_orElse, comma_refused gap (lettered_of_equalFold begins.1 begins.2).1,
    Option.none_or, read?_bind_of_eq_some (read_space gap begins.solid)]
  exact read?_bind_of_eq_none (word_refused (by decide) other)

theorem read_propertyList {keys : List String} (said : KeyList entry keys text rest)
    (joined : Starts (Sequence [Gap, OneOf projectionJoiners]) rest) :
    (propertyList entry).read? text = some (keys, rest) := by
  obtain ⟨first, more⟩ := said
  -- Before `of` or `from` there is no separator, so the properties end there.
  have stop : (listSeparator >>= fun _ => property entry).read? rest = none :=
    read?_bind_of_eq_none (listSeparator_refused joined)
  rw [propertyList, read?_bind_of_eq_some (read_key clear member first), read?_bind_of_eq_some
    (read_repeated (fun _ => True) ?_ ?_ (fun _ => trivial) trivial stop more), read?_pure]
  · rintro key text rest ⟨next, separated, said⟩ -
    rw [read?_bind_of_eq_some (read_listSeparator separated (solid_of_key clear member said)),
      read_key clear member said]
  · rintro key text rest ⟨next, separated, said⟩
    exact Nat.lt_of_le_of_lt (shrinks_key _ _ said) (length_lt_of_listSeparator separated)

theorem read_joiner (said : Joiner text rest) (name : Starts (Name entry.forms) rest) :
    ∃ first second third found, space.read? text = some ((), first) ∧
      (anyWord projectionJoiners).read? first = some ((), second) ∧
      space.read? second = some ((), third) ∧
      (Matcher.optional (word "the" >>= fun _ => space)).read? third = some (found, rest) := by
  obtain ⟨first, gap, second, joiner, third, behind, the⟩ := said
  obtain ⟨_, name⟩ := name
  have lettered := name_lettered clear member
  have other : ∀ {word}, ¬ Fixed word rest :=
    not_fixed_of_name clear member (lead_of_name lettered name).1
  have solid : Solid third := by
    rcases the with rfl | ⟨_, the, _⟩
    · exact solid_of_name lettered name
    · exact (fixed_of_word (by decide) the).1.solid
  obtain ⟨found, article⟩ : ∃ found, (Matcher.optional (word "the" >>= fun _ => space)).read? third =
      some (found, rest) := by
    refine read_optional ?_ ?_ the
    · rintro ⟨_, the, gap⟩
      exact ⟨(), by rw [read?_bind_of_eq_some (read_word the),
        read_space gap (solid_of_name lettered name)]⟩
    · rintro rfl
      exact read?_bind_of_eq_none (word_refused (by decide) other)
  exact ⟨first, second, third, found, read_space gap (solid_of_oneOf joiners_fixed joiner),
    read_anyWord joiners_fixed joiner, read_space behind solid, article⟩

omit clear member in
theorem projection_split {keys : List String} (said : ProjectionText entry (some keys) text rest) :
    ∃ middle, KeyList entry keys text middle ∧ Joiner middle rest ∧
      Starts (Sequence [Gap, OneOf projectionJoiners]) middle := by
  obtain ⟨middle, listed, first, gap, second, joiner, more⟩ := said
  exact ⟨middle, listed, ⟨first, gap, second, joiner, more⟩, second, first, gap, joiner⟩

theorem read_projection {keys : List String} (said : ProjectionText entry (some keys) text rest)
    (name : Starts (Name entry.forms) rest) :
    (projection entry).read? text = some (keys, rest) := by
  obtain ⟨_, listed, joiner, joined⟩ := projection_split said
  obtain ⟨_, _, _, _, gap, word, behind, article⟩ := read_joiner clear member joiner name
  rw [projection, read?_bind_of_eq_some (read_propertyList clear member listed joined),
    read?_bind_of_eq_some gap, read?_bind_of_eq_some word, read?_bind_of_eq_some behind,
    read?_bind_of_eq_some article, read?_pure]

theorem projection_refused (other : lead text ∉ entry.keyForms) :
    (projection entry).read? text = none := by
  have refused := property_refused (key_lettered clear member) other
  exact read?_bind_of_eq_none (read?_bind_of_eq_none refused)

/-! Conditions. -/

omit clear member in
theorem starts_of_introduction {cue : Cue} {key : String} {found : Lookup}
    (said : Introduction entry cue key found text rest) :
    Starts (Key entry key) text ∨ Starts (LookupPhrase found) text := by
  rcases said with ⟨_, key, _⟩ | ⟨_, key, _⟩ | ⟨_, key, _⟩ | ⟨_, _, phrase, _⟩
  · exact .inl ⟨_, key⟩
  · exact .inl ⟨_, key⟩
  · exact .inl ⟨_, key⟩
  · exact .inr ⟨_, phrase⟩

theorem introduction_start {cue : Cue} {key : String} {lookup : Lookup}
    (said : Introduction entry cue key lookup text rest) :
    Solid text ∧ ∀ word ∉ lookupOpeners, ¬ Fixed word text := by
  rcases starts_of_introduction said with ⟨_, key⟩ | ⟨_, phrase⟩
  · exact ⟨solid_of_key clear member key, fun word _ =>
      not_fixed_of_key clear member (lead_of_key (key_lettered clear member) key).1⟩
  · obtain ⟨first, opens, begins, _⟩ := lookupPhrase_start phrase
    refine ⟨begins.solid, fun word other said => other ?_⟩
    rwa [said.unique begins]

omit clear member in
/-- A value reads neither as a gap nor, where no phrase was said, as a phrase. -/
theorem value_start {cue : Cue} {value : Value}
    (said : ValueText (ClearBare grammar entry cue) value text rest) :
    Solid text ∧ (cue ≠ .lookup → ∀ lookup, ¬ Starts (LookupPhrase lookup) text) ∧
      (cue = .property → ¬ Starts (Sequence [Word "of", Gap]) text) := by
  cases said with
  | @literal quote inside _ opens =>
    -- A quote is no letter.
    have nothing : lead (quote :: (inside ++ quote :: rest)) = [] := by
      rcases opens with rfl | rfl <;> rfl
    have unfixed : ∀ word, ¬ Fixed word (quote :: (inside ++ quote :: rest)) := fun word said =>
      (lettered_of_equalFold said.1 said.2).1 nothing
    refine ⟨?_, fun _ lookup ⟨_, phrase⟩ => ?_, fun _ ⟨_, _, of, _⟩ => ?_⟩
    · rcases opens with rfl | rfl <;> rfl
    · obtain ⟨first, _, begins, _⟩ := lookupPhrase_start phrase
      exact unfixed first begins
    · exact unfixed "of" (fixed_of_word (by decide) of).1
  | @bare read _ nonempty bare =>
    exact ⟨bare.solid.append nonempty, bare.plain, bare.unfilled⟩

theorem read_comparison {cue : Cue} {value : Value} {middle : List Char} (gap : Gap text middle)
    (said : ValueText (ClearBare grammar entry cue) value middle rest) (bare : cue ≠ .lookup)
    (onward : Onward grammar entry rest) :
    (comparison grammar entry).read? text = some ((defaultLookup, value), rest) := by
  obtain ⟨solid, plain, _⟩ := value_start said
  rw [comparison, read?_bind_of_eq_some (read_space gap solid),
    read?_bind_of_eq_some (read?_optional_of_eq_none (lookup_refused (plain bare)))]
  simp only [Option.isSome_none, Bool.false_eq_true, if_false]
  rw [read?_bind_of_eq_some (read_value clear member said onward), read?_pure]
  rfl

theorem read_comparison_phrased {found : Lookup} {value : Value} {middle : List Char}
    (phrased : Sequence [Gap, LookupPhrase found, Gap] text middle)
    (said : ValueText (ClearBare grammar entry .lookup) value middle rest)
    (onward : Onward grammar entry rest) :
    (comparison grammar entry).read? text = some ((found, value), rest) := by
  obtain ⟨_, before, _, phrase, behind⟩ := phrased
  obtain ⟨_, _, begins, _⟩ := lookupPhrase_start phrase
  rw [comparison, read?_bind_of_eq_some (read_space before begins.solid),
    read?_bind_of_eq_some (read?_optional_of_eq_some (read_lookup phrase))]
  simp only [Option.isSome_some, if_true]
  rw [read?_bind_of_eq_some (read_space behind (value_start said).1),
    read?_bind_of_eq_some (read_value clear member said onward), read?_pure]
  rfl

omit clear member in
/-- Without the filler `of` and something after it, the first way to go on from a property fails. -/
theorem filler_refused {middle : List Char} (gap : Gap text middle) (solid : Solid middle)
    (unfilled : ¬ Starts (Sequence [Word "of", Gap]) middle) :
    (space >>= fun _ => word "of" >>= fun _ => comparison grammar entry).read? text = none := by
  refine read?_eq_none fun read => ?_
  obtain ⟨_, first, before, read⟩ := read?_bind_eq_some.mp read
  obtain ⟨_, second, filler, read⟩ := read?_bind_eq_some.mp read
  obtain ⟨_, third, behind, _⟩ := read?_bind_eq_some.mp read
  have filler := word_of_read filler
  obtain rfl := gap_unique gap solid (gap_of_read before) (fixed_of_word (by decide) filler).1.solid
  exact unfilled ⟨third, second, filler, gap_of_read behind⟩

/-- A condition without the words that open it. One that names its property is read first; one that
does not is no condition on a property, since a phrase begins with no name. -/
theorem read_core {cue : Cue} {key : String} {found : Lookup} {value : Value} {middle : List Char}
    (introduced : Introduction entry cue key found text middle)
    (said : ValueText (ClearBare grammar entry cue) value middle rest)
    (onward : Onward grammar entry rest) :
    (Matcher.orElse (namedCondition grammar entry) (impliedCondition grammar entry)).read? text =
      some (⟨key, found, value⟩, rest) := by
  have named : ∀ {after : List Char}, Key entry key text after →
      (Matcher.orElse (space >>= fun _ => word "of" >>= fun _ => comparison grammar entry)
        (comparison grammar entry)).read? after = some ((found, value), rest) →
      (Matcher.orElse (namedCondition grammar entry) (impliedCondition grammar entry)).read? text =
        some (⟨key, found, value⟩, rest) := by
    intro after key compared
    rw [read?_orElse, namedCondition, read?_bind_of_eq_some (read_key clear member key),
      read?_bind_of_eq_some compared, read?_pure, Option.some_or]
  cases introduced with
  | property keyed =>
    obtain ⟨_, key, gap⟩ := keyed
    obtain ⟨solid, _, unfilled⟩ := value_start said
    refine named key ?_
    -- The value follows the property, and does not begin with the filler.
    rw [read?_orElse, filler_refused gap solid (unfilled rfl), Option.none_or]
    exact read_comparison clear member gap said (by decide) onward
  | filler keyed =>
    obtain ⟨_, key, _, gap, _, of, behind⟩ := keyed
    refine named key ?_
    rw [read?_orElse, read?_bind_of_eq_some (read_space gap (fixed_of_word (by decide) of).1.solid),
      read?_bind_of_eq_some (read_word of),
      read_comparison clear member behind said (by decide) onward, Option.some_or]
  | lookup keyed =>
    obtain ⟨_, key, _, filler, next, before, phrased⟩ := keyed
    have compared := read_comparison_phrased clear member ⟨next, before, phrased⟩ said onward
    refine named key ?_
    rw [read?_orElse]
    rcases filler with rfl | ⟨_, gap, of⟩
    · obtain ⟨_, phrase, _⟩ := phrased
      obtain ⟨first, opens, begins, _⟩ := lookupPhrase_start phrase
      -- No phrase begins with the filler.
      have unfilled : ¬ Starts (Sequence [Word "of", Gap]) next := by
        rintro ⟨_, _, of, _⟩
        obtain rfl := begins.unique (fixed_of_word (by decide) of).1
        exact absurd opens (by decide)
      rw [filler_refused before begins.solid unfilled, Option.none_or, compared]
    · rw [read?_bind_of_eq_some (read_space gap (fixed_of_word (by decide) of).1.solid),
        read?_bind_of_eq_some (read_word of), compared, Option.some_or]
  | @implied only _ _ _ alone phrased =>
    obtain ⟨_, phrase, gap⟩ := phrased
    obtain ⟨_, _, begins, _⟩ := lookupPhrase_start phrase
    -- The phrase comes first, and it is no property.
    have unnamed : lead text ∉ entry.keyForms := fun keyed =>
      not_fixed_of_key clear member keyed begins
    have single : entry.onlyProperty? = some only := by rw [TypeEntry.onlyProperty?, alone]
    rw [read?_orElse, namedCondition,
      read?_bind_of_eq_none (property_refused (key_lettered clear member) unnamed), Option.none_or,
      impliedCondition, single]
    simp only
    rw [read?_bind_of_eq_some (read_lookup phrase),
      read?_bind_of_eq_some (read_space gap (value_start said).1),
      read?_bind_of_eq_some (read_value clear member said onward), read?_pure]

omit clear member in
theorem read_article {after : List Char} (said : Optional (Sequence [Gap, Article]) text rest)
    (gap : Gap rest after) (solid : Solid after) (others : ∀ word ∈ articles, ¬ Fixed word after) :
    ∃ found, (Matcher.optional (space >>= fun _ => article)).read? text = some (found, rest) := by
  refine read_optional ?_ ?_ said
  · rintro ⟨_, before, said⟩
    exact ⟨(), by rw [read?_bind_of_eq_some (read_space before (solid_of_oneOf articles_fixed said)),
      article, read_anyWord articles_fixed said]⟩
  · rintro rfl
    rw [read?_bind_of_eq_some (read_space gap solid)]
    exact anyWord_refused articles_fixed others

omit clear member in
theorem read_opening (said : Opening text rest) (solid : Solid rest)
    (others : ∀ word ∈ articles, ¬ Fixed word rest) :
    conditionOpening.read? text = some ((), rest) := by
  obtain ⟨_, opener, _, said, gap⟩ := said
  obtain ⟨_, read⟩ := read_article said gap solid others
  rw [conditionOpening, read?_bind_of_eq_some (read_word opener), read?_bind_of_eq_some read,
    read_space gap solid]

theorem read_condition {clause : Clause}
    (said : ClauseText (ClearBare grammar) entry clause text rest)
    (onward : Onward grammar entry rest) :
    (condition grammar entry).read? text = some (clause, rest) := by
  obtain ⟨middle, opening, next, introduced, said⟩ := said
  obtain ⟨solid, other⟩ := introduction_start clear member introduced
  have articles : ∀ word ∈ articles, word ∉ lookupOpeners := by decide
  obtain ⟨found, read⟩ : ∃ found, conditionOpening.optional.read? text = some (found, middle) := by
    refine read_optional ?_ ?_ opening
    · exact fun said => ⟨(), read_opening said solid fun word listed => other word (articles word listed)⟩
    · rintro rfl
      exact read?_bind_of_eq_none (word_refused (by decide) (other _ (by decide)))
  rw [condition, read?_bind_of_eq_some read, read_core clear member introduced said onward]

end Node

end GraphQuery.Query
