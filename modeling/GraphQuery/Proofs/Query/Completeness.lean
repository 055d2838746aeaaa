import GraphQuery.Proofs.Query.Clauses

/-! Whatever belongs to the language is read as it was meant, over a clear vocabulary.

After a facet a query ends, or a hop follows, or another facet of the same group. None of them begins
as a condition does, so the conditions on a facet end where they were meant to. A facet that asks for
properties is the exception, since a property also begins a condition: it must not follow a facet that
has conditions. -/

set_option autoImplicit false

namespace GraphQuery.Query

open Text Grammar Query.Language Matcher

variable {grammar : Grammar} {entry : TypeEntry} {text rest : List Char}

/-! Items joined by connectives. -/

section Joined
variable {α : Type} {matcher : Matcher α} {item : α → Span}

theorem solid_of_connective (said : Connective text rest) : Solid text :=
  solid_of_oneOf connectives_fixed said

theorem read_joined {middle : List Char} (joint : Joint text middle) (solid : Solid middle) :
    (joined matcher).read? text = matcher.read? middle := by
  obtain ⟨_, before, _, connected, behind⟩ := joint
  rw [joined, read?_bind_of_eq_some (read_space before (solid_of_connective connected)), connective,
    read?_bind_of_eq_some (read_anyWord connectives_fixed connected),
    read?_bind_of_eq_some (read_space behind solid)]

theorem joined_refused_of_word {middle : List Char} {word : String} (gap : Gap text middle)
    (begins : Fixed word middle) (other : word ∉ connectives) :
    (joined matcher).read? text = none := by
  rw [joined, read?_bind_of_eq_some (read_space gap begins.solid)]
  refine read?_bind_of_eq_none (anyWord_refused connectives_fixed fun connective listed said => other ?_)
  rwa [begins.unique said]

theorem read_series (allowed : α → α → Prop) (after : α → List Char → Prop) {values : List α}
    (reads : ∀ {value : α} {text middle : List Char}, item value text middle → after value middle →
      matcher.read? text = some (value, middle))
    (solid : ∀ {value : α} {text middle : List Char}, item value text middle → Solid text)
    (shrinks : ∀ value, Shrinks (item value))
    (begins : ∀ {first second : α} {text middle next : List Char}, allowed first second →
      Joint text middle → item second middle next → after first text)
    (final : ∀ {value : α}, after value rest) (stop : (joined matcher).read? rest = none)
    (said : Series Joint item values text rest) (chain : values.IsChain allowed) :
    ∃ first more middle, values = first :: more ∧ item first text middle ∧
      matcher.read? text = some (first, middle) ∧
        read? (many (joined matcher)) middle = some (more, rest) := by
  obtain @⟨first, more, _, middle, _, said, others⟩ := said
  have follows : after first middle := by
    cases others with
    | nil => exact final
    | cons next _ =>
      obtain ⟨_, joint, next⟩ := next
      exact begins (List.isChain_cons_cons.mp chain).1 joint next
  refine ⟨first, more, middle, rfl, said, reads said follows, ?_⟩
  refine read_many allowed after ?_ ?_ ?_ final stop others chain.of_cons
  · rintro value text rest ⟨middle, joint, said⟩ follows
    rw [read_joined joint (solid said), reads said follows]
  · rintro value text rest ⟨middle, joint, said⟩
    exact Nat.lt_of_le_of_lt (shrinks value said) (length_lt_of_joint joint)
  · rintro first second text rest permitted ⟨middle, joint, said⟩
    exact begins permitted joint said

end Joined

/-! What a condition does not begin with. -/

theorem clauseStart_of_clauseText {bare : BareRule} {clause : Clause}
    (said : ClauseText bare entry clause text rest) : Starts (ClauseStart entry) text := by
  obtain ⟨_, opening | ⟨_, opener, _⟩, _, introduced, _⟩ := said
  · subst opening
    rcases starts_of_introduction introduced with ⟨_, key⟩ | ⟨_, phrase⟩
    · exact ⟨_, .inr (.inl ⟨_, key⟩)⟩
    · exact ⟨_, .inr (.inr ⟨_, phrase⟩)⟩
  · exact ⟨_, .inl opener⟩

theorem condition_refused (not : ¬ Starts (ClauseStart entry) text) :
    (condition grammar entry).read? text = none :=
  read?_eq_none fun read => not (clauseStart_of_clauseText (clause_of_read read))

section Node
variable (clear : Clear grammar) (member : entry ∈ grammar.nodeEntries)
include clear member

theorem not_clauseStart_of_fixed {word : String} (begins : Fixed word text)
    (other : word ≠ conditionOpener) (other' : word ∉ lookupOpeners) :
    ¬ Starts (ClauseStart entry) text := by
  rintro ⟨_, said⟩
  rcases lead_of_clauseStart clear member said with opener | keyed | ⟨first, opens, begins', _⟩
  · exact other (begins.unique opener)
  · exact not_fixed_of_key clear member keyed begins
  · exact other' (begins.unique begins' ▸ opens)

theorem not_clauseStart_of_connective (said : Connective text rest) :
    ¬ Starts (ClauseStart entry) text := by
  obtain ⟨word, listed, begins, _⟩ := fixed_of_oneOf connectives_fixed said
  have others : ∀ word ∈ connectives, word ≠ conditionOpener ∧ word ∉ lookupOpeners := by decide
  exact not_clauseStart_of_fixed clear member begins (others word listed).1 (others word listed).2

theorem not_clauseStart_of_name (named : lead text ∈ entry.forms) :
    ¬ Starts (ClauseStart entry) text := by
  rintro ⟨_, said⟩
  rcases lead_of_clauseStart clear member said with opener | keyed | ⟨_, _, begins, _⟩
  · exact not_fixed_of_name clear member named opener
  · exact clear.names entry member entry member _ named keyed
  · exact not_fixed_of_name clear member named begins

/-- A relationship is no fixed word, so `that` and a relationship do not begin a lookup phrase. -/
theorem not_clauseStart_of_hopStart (said : HopStart grammar text rest) :
    ¬ Starts (ClauseStart entry) text := by
  obtain ⟨word, listed, begins, middle, gap, other, known, named, _⟩ := lead_of_hopStart clear said
  have free : ∀ {word}, ¬ Fixed word middle := not_fixed_of_relationship clear known named
  have solid : Solid middle := solid_of_lead (clear.relationship_lettered known named).1
  rintro ⟨_, said⟩
  rcases lead_of_clauseStart clear member said with opener | keyed | ⟨_, _, _, _, _, gap', next⟩
  · obtain rfl := begins.unique opener
    exact absurd listed (by decide)
  · exact not_fixed_of_key clear member keyed begins
  · obtain rfl := gap_unique gap solid gap' next.solid
    exact free next

end Node

/-! What may follow a facet. -/

def Ended (grammar : Grammar) (text : List Char) : Prop :=
  text = [] ∨ Starts (Sequence [Gap, Optional (Sequence [Connective, Gap]), HopStart grammar]) text

/-- What may follow the conditions on a facet: it ends the last value, and does not read as one more
condition. -/
structure Follows (grammar : Grammar) (entry : TypeEntry) (clauses : List Clause)
    (text : List Char) : Prop where
  onward : Onward grammar entry text
  more : clauses ≠ [] → (joined (condition grammar entry)).read? text = none
  first : clauses = [] → ∀ middle, space.read? text = some ((), middle) →
    (condition grammar entry).read? middle = none

theorem eq_of_read_space {middle other : List Char} (gap : Gap text middle) (solid : Solid middle)
    (read : space.read? text = some ((), other)) : other = middle :=
  rest_unique read (read_space gap solid)

section Node
variable (clear : Clear grammar) (member : entry ∈ grammar.nodeEntries)
include clear member

theorem follows_of_ended {clauses : List Clause} (ended : Ended grammar text) :
    Follows grammar entry clauses text := by
  rcases ended with rfl | ⟨rest, middle, gap, next, connected, hop⟩
  · refine ⟨.inl rfl, fun _ => joined_refused_of_end, fun _ middle read => ?_⟩
    rw [space_refused (show Solid [] from rfl)] at read
    cases read
  have refused : (condition grammar entry).read? next = none :=
    condition_refused (not_clauseStart_of_hopStart clear member hop)
  -- A condition would have to begin with the hop, or with the connective in front of it.
  obtain ⟨word, listed, begins, _⟩ := lead_of_hopStart clear hop
  rcases connected with rfl | ⟨after, connective, behind⟩
  · refine ⟨.inr ⟨rest, middle, gap, .inl hop⟩, fun _ => ?_, fun _ other read => ?_⟩
    · exact joined_refused_of_word gap begins (openers_not_connectives word listed)
    · rwa [eq_of_read_space gap begins.solid read]
  · refine ⟨.inr ⟨rest, middle, gap, .inr ⟨after, connective, next, behind, .inr (.inr hop)⟩⟩,
      fun _ => ?_, fun _ other read => ?_⟩
    · rwa [read_joined ⟨middle, gap, after, connective, behind⟩ begins.solid]
    · rw [eq_of_read_space gap (solid_of_connective connective) read]
      exact condition_refused (not_clauseStart_of_connective clear member connective)

omit clear member in
theorem facet_parts {bare : BareRule} {facet : Facet} (said : FacetText bare entry facet text rest) :
    facet.typeId = entry.id ∧ ∃ middle after, ProjectionText entry facet.projection text middle ∧
      Name entry.forms middle after ∧ ClausesText bare entry facet.clauses after rest := by
  obtain ⟨middle, projection, after, name, clauses⟩ := said
  exact ⟨rfl, middle, after, projection, name, clauses⟩

omit clear member in
theorem facet_start {bare : BareRule} {facet : Facet}
    (said : FacetText bare entry facet text rest) :
    Starts (Name entry.forms) text ∧ facet.projection = none ∨ ∃ key, Starts (Key entry key) text := by
  obtain ⟨-, middle, after, projected, name, -⟩ := facet_parts said
  cases asked : facet.projection with
  | none =>
    rw [asked] at projected
    obtain rfl := projected
    exact .inl ⟨⟨after, name⟩, rfl⟩
  | some keys =>
    rw [asked] at projected
    obtain ⟨_, ⟨key, _⟩, _⟩ := projection_split projected
    exact .inr ⟨_, _, key⟩

theorem facet_lead {bare : BareRule} {facet : Facet} (said : FacetText bare entry facet text rest) :
    lead text ∈ entry.forms ++ entry.keyForms := by
  rcases facet_start said with ⟨⟨_, name⟩, _⟩ | ⟨_, _, key⟩
  · exact List.mem_append_left _ (lead_of_name (name_lettered clear member) name).1
  · exact List.mem_append_right _ (lead_of_key (key_lettered clear member) key).1

theorem facet_solid {bare : BareRule} {facet : Facet} (said : FacetText bare entry facet text rest) :
    Solid text :=
  solid_of_lead (clear.node_lettered member (facet_lead clear member said)).1

theorem follows_of_joint {bare : BareRule} {clauses : List Clause} {facet : Facet} {middle : List Char}
    (joint : Joint text middle) (said : FacetText bare entry facet middle rest)
    (permitted : clauses ≠ [] → facet.projection = none) : Follows grammar entry clauses text := by
  obtain ⟨first, gap, second, connective, behind⟩ := joint
  refine ⟨.inr ?_, fun some => ?_, fun _ other read => ?_⟩
  · rcases facet_start said with ⟨⟨_, name⟩, _⟩ | ⟨_, _, key⟩
    · exact ⟨_, first, gap, .inr ⟨second, connective, middle, behind, .inr (.inl name)⟩⟩
    · exact ⟨_, first, gap, .inr ⟨second, connective, middle, behind, .inl (.inr (.inl ⟨_, key⟩))⟩⟩
  -- Another condition could only be read from the facet. It asks for no properties, so it begins with
  -- the name of its type.
  · rw [read_joined ⟨first, gap, second, connective, behind⟩ (facet_solid clear member said)]
    obtain ⟨-, before, _, projected, name, -⟩ := facet_parts said
    rw [permitted some] at projected
    obtain rfl := projected
    exact condition_refused (not_clauseStart_of_name clear member
      (lead_of_name (name_lettered clear member) name).1)
  · rw [eq_of_read_space gap (solid_of_connective connective) read]
    exact condition_refused (not_clauseStart_of_connective clear member connective)

/-! Facets. -/

omit clear member in
theorem onward_of_joint {bare : BareRule} {clause : Clause} {middle : List Char}
    (joint : Joint text middle) (said : ClauseText bare entry clause middle rest) :
    Onward grammar entry text := by
  obtain ⟨first, gap, second, connective, behind⟩ := joint
  obtain ⟨after, start⟩ := clauseStart_of_clauseText said
  exact .inr ⟨after, first, gap, .inr ⟨second, connective, middle, behind, .inl start⟩⟩

theorem clause_solid {bare : BareRule} {clause : Clause}
    (said : ClauseText bare entry clause text rest) : Solid text := by
  obtain ⟨_, start⟩ := clauseStart_of_clauseText said
  exact solid_of_clauseStart clear member start

theorem read_conditions {clauses : List Clause}
    (said : ClausesText (ClearBare grammar) entry clauses text rest)
    (follows : Follows grammar entry clauses rest) :
    (conditions grammar entry).read? text = some (clauses, rest) := by
  cases said with
  | none =>
    have refused : (space >>= fun _ => condition grammar entry >>= fun first =>
        many (joined (condition grammar entry)) >>= fun more => Pure.pure (first :: more)).read? text =
          none := by
      cases read : space.read? text with
      | none => exact read?_bind_of_eq_none read
      | some reading =>
        rw [read?_bind_of_eq_some read]
        exact read?_bind_of_eq_none (follows.first rfl _ read)
    rw [conditions, read?_bind_of_eq_some (read?_optional_of_eq_none refused)]
    rfl
  | some said =>
    obtain ⟨after, gap, series⟩ := said
    have stop := follows.more series.ne_nil
    obtain ⟨first, more, middle, rfl, begins, read, others⟩ :=
      read_series (fun _ _ => True) (fun _ => Onward grammar entry) (read_condition clear member)
        (clause_solid clear member) (shrinks_clauseText _ _)
        (fun _ joint said => onward_of_joint joint said) follows.onward stop series
        (List.pairwise_of_forall fun _ _ => trivial).isChain
    have reads : (space >>= fun _ => condition grammar entry >>= fun first =>
        many (joined (condition grammar entry)) >>= fun more => Pure.pure (first :: more)).read? text =
          some (first :: more, rest) := by
      rw [read?_bind_of_eq_some (read_space gap (clause_solid clear member begins)),
        read?_bind_of_eq_some read, read?_bind_of_eq_some others, read?_pure]
    rw [conditions, read?_bind_of_eq_some (read?_optional_of_eq_some reads)]
    rfl

theorem read_nodeFacet {facet : Facet} (said : FacetText (ClearBare grammar) entry facet text rest)
    (follows : Follows grammar entry facet.clauses rest) :
    (nodeFacet grammar entry).read? text = some (facet, rest) := by
  obtain @⟨asked, clauses, _, _, middle, projected, after, name, said⟩ := said
  have lettered := name_lettered clear member
  have projection : (projection entry).optional.read? text = some (asked, middle) := by
    cases asked with
    | none =>
      obtain rfl := projected
      have unasked : lead text ∉ entry.keyForms :=
        clear.names entry member entry member _ (lead_of_name lettered name).1
      exact read?_optional_of_eq_none (projection_refused clear member unasked)
    | some keys =>
      exact read?_optional_of_eq_some (read_projection clear member projected ⟨after, name⟩)
  rw [nodeFacet, read?_bind_of_eq_some projection,
    read?_bind_of_eq_some (read_typeName lettered name),
    read?_bind_of_eq_some (read_conditions clear member said follows), read?_pure]

theorem nodeFacet_refused {word : String} (begins : Fixed word text) :
    (nodeFacet grammar entry).read? text = none := by
  have unnamed : lead text ∉ entry.forms := fun named =>
    not_fixed_of_name clear member named begins
  have unasked : lead text ∉ entry.keyForms := fun keyed =>
    not_fixed_of_key clear member keyed begins
  rw [nodeFacet, read?_bind_of_eq_some
    (read?_optional_of_eq_none (projection_refused clear member unasked))]
  exact read?_bind_of_eq_none (typeName_refused (name_lettered clear member) unnamed)

theorem joined_nodeFacet_refused (ended : Ended grammar text) :
    (joined (nodeFacet grammar entry)).read? text = none := by
  rcases ended with rfl | ⟨rest, middle, gap, next, connected, hop⟩
  · exact joined_refused_of_end
  obtain ⟨word, listed, begins, _⟩ := lead_of_hopStart clear hop
  rcases connected with rfl | ⟨after, connective, behind⟩
  · exact joined_refused_of_word gap begins (openers_not_connectives word listed)
  · rw [read_joined ⟨middle, gap, after, connective, behind⟩ begins.solid]
    exact nodeFacet_refused clear member begins

end Node

/-! Facets of different types. -/

section Types
variable {other : TypeEntry} (clear : Clear grammar) (member : entry ∈ grammar.nodeEntries)
  (member' : other ∈ grammar.nodeEntries)
include clear member member'

/-- The properties asked for end at the same place, whichever type they are taken to belong to. -/
theorem keys_unique {keys keys' : List String} {left : List Char}
    (said : Repeated (fun key => Sequence [ListSeparator, Key entry key]) keys text rest)
    (joined : Starts (Sequence [Gap, OneOf projectionJoiners]) rest)
    (said' : Repeated (fun key => Sequence [ListSeparator, Key other key]) keys' text left)
    (joined' : Starts (Sequence [Gap, OneOf projectionJoiners]) left) : rest = left := by
  -- On the properties of one type: a further one comes after a separator, and none does before `of`.
  induction said generalizing keys' with
  | nil =>
    cases said' with
    | nil => rfl
    | cons next _ =>
      obtain ⟨_, separated, key⟩ := next
      have read := read_listSeparator separated (solid_of_key clear member' key)
      rw [listSeparator_refused joined] at read
      cases read
  | cons next _ ih =>
    obtain ⟨_, separated, key⟩ := next
    have read := read_listSeparator separated (solid_of_key clear member key)
    cases said' with
    | nil =>
      rw [listSeparator_refused joined'] at read
      cases read
    | cons next' more =>
      obtain ⟨_, separated', key'⟩ := next'
      obtain rfl :=
        rest_unique read (read_listSeparator separated' (solid_of_key clear member' key'))
      have same := (lead_of_key (key_lettered clear member) key).2.trans
        (lead_of_key (key_lettered clear member') key').2.symm
      subst same
      exact ih joined more

/-- Where the name of the type begins is told by the text alone. -/
theorem projection_unique {keys keys' : List String} {left : List Char}
    (said : ProjectionText entry (some keys) text rest) (name : Starts (Name entry.forms) rest)
    (said' : ProjectionText other (some keys') text left) (name' : Starts (Name other.forms) left) :
    rest = left := by
  obtain ⟨middle, ⟨first, more⟩, joiner, joined⟩ := projection_split said
  obtain ⟨middle', ⟨first', more'⟩, joiner', joined'⟩ := projection_split said'
  have begun := (lead_of_key (key_lettered clear member) first).2.trans
    (lead_of_key (key_lettered clear member') first').2.symm
  subst begun
  obtain rfl := keys_unique clear member member' more joined more' joined'
  obtain ⟨_, _, _, _, gap, word, behind, article⟩ := read_joiner clear member joiner name
  obtain ⟨_, _, _, _, gap', word', behind', article'⟩ := read_joiner clear member' joiner' name'
  obtain rfl := rest_unique gap gap'
  obtain rfl := rest_unique word word'
  obtain rfl := rest_unique behind behind'
  exact rest_unique article article'

/-- A name is no property, whichever types they belong to. -/
theorem not_projection_of_name {keys : List String} {left : List Char}
    (name : Name entry.forms text rest) : ¬ ProjectionText other (some keys) text left := by
  intro projected
  obtain ⟨_, ⟨key, _⟩, _⟩ := projection_split projected
  exact clear.names entry member other member' _
    (lead_of_name (name_lettered clear member) name).1
    (lead_of_key (key_lettered clear member') key).1

/-- A text that begins with a facet begins with a facet of one type only. -/
theorem facet_type_unique {bare bare' : BareRule} {facet facet' : Facet} {left : List Char}
    (said : FacetText bare entry facet text rest) (said' : FacetText bare' other facet' text left) :
    other = entry := by
  obtain ⟨-, middle, after, projected, name, -⟩ := facet_parts said
  obtain ⟨-, middle', after', projected', name', -⟩ := facet_parts said'
  -- The names of the types begin at the same place.
  have same : middle = middle' := by
    cases asked : facet.projection with
    | none =>
      rw [asked] at projected
      obtain rfl := projected
      cases asked' : facet'.projection with
      | none =>
        rw [asked'] at projected'
        exact projected'
      | some keys' =>
        rw [asked'] at projected'
        exact absurd projected' (not_projection_of_name clear member member' name)
    | some keys =>
      rw [asked] at projected
      cases asked' : facet'.projection with
      | none =>
        rw [asked'] at projected'
        obtain rfl := projected'
        exact absurd projected (not_projection_of_name clear member' member name')
      | some keys' =>
        rw [asked'] at projected'
        exact projection_unique clear member member' projected ⟨after, name⟩ projected' ⟨after', name'⟩
  subst same
  exact eq_of_pairwise_apart clear.nodes member' member
    (lead_of_name (name_lettered clear member') name').1
    (lead_of_name (name_lettered clear member) name).1

end Types

/-! Groups, relationships, hops and trees. -/

theorem read_anyNodeFacet (clear : Clear grammar) (member : entry ∈ grammar.nodeEntries) {facet : Facet}
    (said : FacetText (ClearBare grammar) entry facet text rest)
    (read : (nodeFacet grammar entry).read? text = some (facet, rest)) :
    (anyNodeFacet grammar).read? text = some ((entry, facet), rest) := by
  rw [anyNodeFacet, read?_furthestOf, List.map_map]
  refine longest_eq_some (List.mem_map.mpr ⟨entry, member, ?_⟩) ?_
  · simp only [Function.comp_apply]
    rw [read?_bind_of_eq_some read, read?_pure]
  -- Whatever another type reads here tells that it is the same type.
  · rintro ⟨⟨winner, facet'⟩, left⟩ offered
    obtain ⟨other, member', read'⟩ := List.mem_map.mp offered
    simp only [Function.comp_apply, read?_bind_eq_some, read?_pure, Option.some.injEq,
      Prod.mk.injEq] at read'
    obtain ⟨facet', _, read', ⟨rfl, rfl⟩, rfl⟩ := read'
    obtain rfl := facet_type_unique clear member member' said (facet_of_read read')
    rw [read] at read'
    cases read'
    rfl

/-- Whether a facet may come right before another one in a group. -/
def Precedes (first second : Facet) : Prop :=
  first.clauses ≠ [] → second.projection = none

def Ordered (facets : List Facet) : Prop :=
  facets.IsChain Precedes

theorem read_group (clear : Clear grammar) {facets : List Facet}
    (said : GroupText (ClearBare grammar) grammar facets text rest) (ordered : Ordered facets)
    (ended : Ended grammar rest) : (group grammar).read? text = some (facets, rest) := by
  obtain ⟨entry, member, series⟩ := said
  obtain ⟨first, more, middle, rfl, begins, read, others⟩ :=
    read_series Precedes (fun facet => Follows grammar entry facet.clauses)
      (read_nodeFacet clear member) (facet_solid clear member) (shrinks_facetText _ _)
      (fun permitted joint said => follows_of_joint clear member joint said permitted)
      (follows_of_ended clear member ended) (joined_nodeFacet_refused clear member ended) series ordered
  rw [group, read?_bind_of_eq_some (read_anyNodeFacet clear member begins read)]
  simp only
  rw [read?_bind_of_eq_some others, read?_pure]

theorem group_start (clear : Clear grammar) {bare : BareRule} {facets : List Facet}
    (said : GroupText bare grammar facets text rest) :
    Solid text ∧ ∀ {word}, ¬ Fixed word text := by
  obtain ⟨entry, member, first, _⟩ := said
  exact ⟨facet_solid clear member first, not_fixed_of_node clear member (facet_lead clear member first)⟩

theorem group_ne_nil (clear : Clear grammar) {bare : BareRule} {facets : List Facet}
    (said : GroupText bare grammar facets text rest) : text ≠ [] := by
  obtain ⟨entry, member, first, _⟩ := said
  rintro rfl
  exact (clear.node_lettered member (facet_lead clear member first)).1 rfl

/-- Up to the name all relationships read alike. -/
theorem relationshipFacet_eq {next middle after : List Char} (other : TypeEntry)
    (connected : Optional (Sequence [Connective, Gap]) text next)
    (opener : OneOf relationshipOpeners next middle) (gap : Gap middle after) (solid : Solid after) :
    (relationshipFacet other).read? text =
      (typeName other >>= fun _ => (Matcher.optional (space >>= fun _ => article)) >>= fun _ =>
        (Pure.pure other.id : Matcher TypeId)).read? after := by
  obtain ⟨word, listed, begins, _⟩ := fixed_of_oneOf openers_fixed opener
  obtain ⟨found, read⟩ : ∃ found,
      (Matcher.optional (Query.connective >>= fun _ => space)).read? text = some (found, next) := by
    refine read_optional ?_ ?_ connected
    · rintro ⟨_, connective, behind⟩
      exact ⟨(), by rw [Query.connective, read?_bind_of_eq_some (read_anyWord connectives_fixed connective),
        read_space behind begins.solid]⟩
    · rintro rfl
      refine read?_bind_of_eq_none (anyWord_refused connectives_fixed fun connective member said => ?_)
      exact openers_not_connectives word listed (begins.unique said ▸ member)
  rw [relationshipFacet, read?_bind_of_eq_some read,
    read?_bind_of_eq_some (read_anyWord openers_fixed opener),
    read?_bind_of_eq_some (read_space gap solid)]

theorem read_relation (clear : Clear grammar) {relation : TypeId} {after : List Char}
    (said : RelationText grammar relation text rest) (gap : Gap rest after) (solid : Solid after)
    (free : ∀ {word}, ¬ Fixed word after) :
    ∃ middle, space.read? text = some ((), middle) ∧
      (anyRelationshipFacet grammar).read? middle = some (relation, rest) := by
  obtain ⟨entry, member, rfl, middle, before, next, connected, second, opener, third, behind, fourth,
    name, said⟩ := said
  have lettered : ∀ {other}, other ∈ grammar.relationshipEntries → ∀ form ∈ other.forms, Lettered form :=
    fun member form found => clear.relationship_lettered member found
  have alike := fun other => relationshipFacet_eq other connected opener behind
    (solid_of_name (lettered member) name)
  refine ⟨middle, read_space before ?_, ?_⟩
  · rcases connected with rfl | ⟨_, connective, _⟩
    · exact solid_of_oneOf openers_fixed opener
    · exact solid_of_connective connective
  have read : (relationshipFacet entry).read? middle = some (entry.id, rest) := by
    obtain ⟨_, read⟩ := read_article said gap solid fun _ _ => free
    rw [alike, read?_bind_of_eq_some (read_typeName (lettered member) name),
      read?_bind_of_eq_some read, read?_pure]
  rw [anyRelationshipFacet, read?_furthestOf, List.map_map]
  refine longest_eq_some (List.mem_map.mpr ⟨entry, member, read⟩) ?_
  -- Up to its name every relationship reads the same, and the name tells which one it is.
  rintro ⟨id, left⟩ offered
  obtain ⟨other, member', read'⟩ := List.mem_map.mp offered
  rw [Function.comp_apply, alike] at read'
  obtain ⟨_, _, name', _⟩ := read?_bind_eq_some.mp read'
  obtain rfl := eq_of_pairwise_apart clear.relationships member' member
    (lead_of_name (lettered member') (name_of_read name')).1 (lead_of_name (lettered member) name).1
  rw [← alike, read] at read'
  exact (Option.some.inj read').symm

theorem ended_of_hopText {bare : BareRule} {found : Hop}
    (said : HopText bare grammar found text rest) : Ended grammar text := by
  obtain ⟨_, ⟨entry, member, _, middle, before, next, connected, second, opener, third, behind, fourth,
    name, _⟩, _⟩ := said
  exact .inr ⟨fourth, middle, before, next, connected, entry, member, second, opener, third, behind, name⟩

theorem read_hop (clear : Clear grammar) {found : Hop}
    (said : HopText (ClearBare grammar) grammar found text rest) (ordered : Ordered found.targets)
    (ended : Ended grammar rest) : (hop grammar).read? text = some (found, rest) := by
  obtain ⟨_, related, _, behind, targets⟩ := said
  obtain ⟨solid, free⟩ := group_start clear targets
  obtain ⟨_, before, relation⟩ := read_relation clear related behind solid free
  rw [hop, read?_bind_of_eq_some before, read?_bind_of_eq_some relation,
    read?_bind_of_eq_some (read_space behind solid),
    read?_bind_of_eq_some (read_group clear targets ordered ended), read?_pure]

def OrderedTree (tree : Tree) : Prop :=
  Ordered tree.sources ∧ ∀ hop ∈ tree.hops, Ordered hop.targets

theorem read_tree (clear : Clear grammar) {found : Tree} (ordered : OrderedTree found)
    (said : TreeText (ClearBare grammar) grammar found text []) :
    (tree grammar).read? text = some (found, []) := by
  obtain @⟨sources, hops, _, _, middle, group, repeated⟩ := said
  have ended : Ended grammar middle := by
    cases repeated with
    | nil => exact .inl rfl
    | cons first _ => exact ended_of_hopText first
  -- Behind the last hop there is no more text.
  have stop : (hop grammar).read? [] = none :=
    read?_bind_of_eq_none (space_refused (show Solid [] from rfl))
  have hops := read_repeated (Ended grammar) (fun said ended => read_hop clear said.1 said.2 ended)
    (fun said => length_lt_of_hopText said.1) (fun said => ended_of_hopText said.1) (.inl rfl) stop
    (repeated.restrict ordered.2)
  rw [tree, read?_bind_of_eq_some (read_group clear group ordered.1 ended), read?_bind_of_eq_some hops]
  rfl

end GraphQuery.Query
