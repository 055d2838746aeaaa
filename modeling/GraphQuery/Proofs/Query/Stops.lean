import GraphQuery.Proofs.Grammar.Forms
import GraphQuery.Proofs.Query.Leads

/-! Where a bare value stops.

A bare value goes on up to the first space at which a relationship follows, or a connective and then more
about the type. Every name is a word, so there is one way only to pass over the gaps before it. -/

set_option autoImplicit false

namespace GraphQuery.Query

open Text Grammar

namespace Language

def HopStart (grammar : Grammar) : Span :=
  fun text rest => ∃ entry ∈ grammar.relationshipEntries,
    Sequence [OneOf relationshipOpeners, Gap, Name entry.forms] text rest

def ClauseStart (entry : TypeEntry) : Span :=
  fun text rest => Word conditionOpener text rest ∨ (∃ key, Key entry key text rest) ∨
    ∃ lookup, LookupPhrase lookup text rest

/-- What ends a bare value: a relationship, or a connective and then more about the type. -/
def Continuation (grammar : Grammar) (entry : TypeEntry) : Span :=
  Sequence [Gap, Either (HopStart grammar) (Sequence [Connective, Gap,
    Either (ClauseStart entry) (Either (Name entry.forms) (HopStart grammar))])]

def Onwards (grammar : Grammar) (joined : Span) : Span :=
  Sequence [Gap, Either (HopStart grammar) (Sequence [Connective, Gap, joined])]

end Language

open Query.Language Matcher

variable {grammar : Grammar} {entry : TypeEntry} {text rest : List Char}

/-! Where something else begins. -/

theorem accepts_iff {α : Type} {matcher : Matcher α} {span : Span}
    (sound : ∀ {value : α} {rest : List Char}, matcher.read? text = some (value, rest) →
      span text rest)
    (complete : ∀ {rest : List Char}, span text rest → (matcher.read? text).isSome) :
    matcher.accepts text = true ↔ Starts span text := by
  rw [accepts_eq_isSome]
  constructor
  · intro accepted
    obtain ⟨reading, read⟩ := Option.isSome_iff_exists.mp accepted
    exact ⟨reading.2, sound read⟩
  · rintro ⟨rest, said⟩
    exact complete said

theorem hopStart_of_read (read : (relationshipStart grammar).read? text = some ((), rest)) :
    HopStart grammar text rest := by
  simp only [relationshipStart, read?_bind_eq_some, read?_firstOf] at read
  obtain ⟨_, first, opener, _, second, gap, name⟩ := read
  obtain ⟨matcher, member, read⟩ := List.exists_of_findSome?_eq_some name
  obtain ⟨entry, listed, rfl⟩ := List.mem_map.mp member
  exact ⟨entry, listed, first, exists_word_of_read opener, second, gap_of_read gap, name_of_read read⟩

theorem openers_fixed : ∀ word ∈ relationshipOpeners, word ∈ fixedWords := by decide

theorem connectives_fixed : ∀ word ∈ connectives, word ∈ fixedWords := by decide

theorem articles_fixed : ∀ word ∈ articles, word ∈ fixedWords := by decide

theorem joiners_fixed : ∀ word ∈ projectionJoiners, word ∈ fixedWords := by decide

theorem solid_of_oneOf {words : List String} (fixed : ∀ word ∈ words, word ∈ fixedWords)
    (said : OneOf words text rest) : Solid text := by
  obtain ⟨word, _, begins, _⟩ := fixed_of_oneOf fixed said
  exact begins.solid

theorem solid_of_hopStart (said : HopStart grammar text rest) : Solid text := by
  obtain ⟨entry, _, _, opener, _⟩ := said
  exact solid_of_oneOf openers_fixed opener

/-! Names over which no gap can be extended. -/

def Headed (form : List Char) : Prop :=
  form ≠ [] ∧ Solid form

theorem headed_of_singleSpaced {form : List Char} (spaced : SingleSpaced false form) : Headed form := by
  obtain ⟨c, rest, rfl, visible⟩ := spaced.exists_eq_cons
  refine ⟨List.cons_ne_nil c rest, solid_cons.mpr ?_⟩
  rw [Bool.eq_false_iff]
  intro blank
  have white : c = ' ' ∨ c = '\t' := by simpa [isBlank] using blank
  rcases white with rfl | rfl <;> exact absurd visible (by decide)

theorem solid_of_headed {forms : List (List Char)} (headed : ∀ form ∈ forms, Headed form)
    (said : Name forms text rest) : Solid text := by
  obtain ⟨form, member, rfl, _⟩ := said
  exact (headed form member).2.append (headed form member).1

structure Worded (grammar : Grammar) (entry : TypeEntry) : Prop where
  relationships : ∀ relationship ∈ grammar.relationshipEntries, ∀ form ∈ relationship.forms, Headed form
  names : ∀ form ∈ entry.forms, Headed form
  keys : ∀ property ∈ entry.properties, ∀ form ∈ property.forms, Headed form

theorem worded_of_valid {schema : Schema} (valid : schema.validate = .ok ())
    (member : entry ∈ (ofTypes schema).nodeEntries) : Worded (ofTypes schema) entry where
  relationships relationship known form found := by
    obtain ⟨type, declared, rfl⟩ := List.mem_map.mp known
    exact headed_of_singleSpaced
      (Schema.singleSpaced_of_mem_typeForms .relationship valid (List.mem_map_of_mem declared) found)
  names form found := by
    obtain ⟨type, declared, rfl⟩ := List.mem_map.mp member
    exact headed_of_singleSpaced (Schema.singleSpaced_of_mem_typeForms .node valid declared found)
  keys property listed form found := by
    obtain ⟨type, declared, rfl⟩ := List.mem_map.mp member
    exact headed_of_singleSpaced (Schema.singleSpaced_of_mem_keyForms .node valid declared listed found)

theorem solid_of_lookupPhrase {found : Lookup} (said : LookupPhrase found text rest) : Solid text := by
  obtain ⟨_, _, begins, _⟩ := lookupPhrase_start said
  exact begins.solid

/-! The pieces that may come next. -/

theorem word_accepts_iff {expected : String} :
    (word expected).accepts text = true ↔ Starts (Word expected) text :=
  accepts_iff word_of_read fun said => by
    rw [read_word said]
    rfl

theorem typeName_accepts_iff : (typeName entry).accepts text = true ↔ Starts (Name entry.forms) text :=
  accepts_iff name_of_read isSome_typeName

theorem property_accepts_iff :
    (property entry).accepts text = true ↔ ∃ rest key, Key entry key text rest :=
  @accepts_iff text _ _ (fun text rest => ∃ key, Key entry key text rest)
    (fun read => ⟨_, key_of_read read⟩) fun ⟨_, said⟩ => isSome_property said

theorem lookup_accepts_iff :
    lookup.accepts text = true ↔ ∃ rest found, LookupPhrase found text rest :=
  @accepts_iff text _ _ (fun text rest => ∃ found, LookupPhrase found text rest)
    (fun read => ⟨_, lookupPhrase_of_read read⟩) fun ⟨_, said⟩ => by
      rw [read_lookup said]
      rfl

section Worded
variable (worded : Worded grammar entry)
include worded

theorem isSome_relationshipStart (said : HopStart grammar text rest) :
    ((relationshipStart grammar).read? text).isSome := by
  obtain ⟨relationship, member, _, opener, middle, gap, name⟩ := said
  rw [relationshipStart, read?_bind_of_eq_some (read_anyWord openers_fixed opener),
    read?_bind_of_eq_some
      (read_space gap (solid_of_headed (worded.relationships relationship member) name)),
    read?_firstOf, List.findSome?_isSome_iff]
  exact ⟨typeName relationship, List.mem_map_of_mem member, isSome_typeName name⟩

theorem relationshipStart_accepts_iff :
    (relationshipStart grammar).accepts text = true ↔ Starts (HopStart grammar) text :=
  accepts_iff hopStart_of_read (isSome_relationshipStart worded)

theorem solid_of_more (said : Starts (Either (ClauseStart entry)
    (Either (Name entry.forms) (HopStart grammar))) text) : Solid text := by
  rcases said with ⟨rest, (opener | ⟨_, property, listed, _, name⟩ | ⟨_, phrase⟩) | name | hop⟩
  · exact (fixed_of_word (by decide) opener).1.solid
  · exact solid_of_headed (worded.keys property listed) name
  · exact solid_of_lookupPhrase phrase
  · exact solid_of_headed worded.names name
  · exact solid_of_hopStart hop

/-- The lookahead of a bare value with what may follow a connective left open. -/
def stopsBefore (grammar : Grammar) (joined : List Char → Bool) (text : List Char) : Bool :=
  match readSpace? text with
  | none => false
  | some (_, after) =>
    (relationshipStart grammar).accepts after ||
      match ((do connective; space : Matcher Unit) after).result with
      | none => false
      | some (_, next) => joined next

theorem stopsBefore_iff {joined : List Char → Bool} {span : Span}
    (each : ∀ {next}, joined next = true ↔ Starts span next)
    (solid : ∀ {next}, Starts span next → Solid next) :
    stopsBefore grammar joined text = true ↔ Starts (Onwards grammar span) text := by
  have connected : ∀ {after next}, ((do connective; space : Matcher Unit) after).result = some ((), next) ↔
      (connective >>= fun _ => space).read? after = some ((), next) := .rfl
  have spaced : ∀ {after}, readSpace? text = some ((), after) ↔ space.read? text = some ((), after) := by
    intro after
    rw [space, read?_piece]
  constructor
  · intro stops
    unfold stopsBefore at stops
    split at stops
    · cases stops
    · next after read =>
      have gap := gap_of_readSpace read
      rcases Bool.or_eq_true_iff.mp stops with hop | more
      · obtain ⟨rest, hop⟩ := (relationshipStart_accepts_iff worded).mp hop
        exact ⟨rest, after, gap, .inl hop⟩
      · split at more
        · cases more
        · next next read =>
          obtain ⟨_, first, connective, behind⟩ := read?_bind_eq_some.mp (connected.mp read)
          obtain ⟨rest, said⟩ := each.mp more
          exact ⟨rest, after, gap, .inr ⟨first, exists_word_of_read connective, next,
            gap_of_read behind, said⟩⟩
  · -- The whole gap is read, since neither a hop nor a connective begins with a blank.
    rintro ⟨rest, after, gap, hop | ⟨first, said, next, behind, more⟩⟩
    · rw [stopsBefore, spaced.mpr (read_space gap (solid_of_hopStart hop))]
      simp only [(relationshipStart_accepts_iff worded).mpr ⟨rest, hop⟩, Bool.true_or]
    · have read : (connective >>= fun _ => space).read? after = some ((), next) := by
        rw [connective, read?_bind_of_eq_some (read_anyWord connectives_fixed said),
          read_space behind (solid ⟨rest, more⟩)]
      rw [stopsBefore, spaced.mpr (read_space gap (solid_of_oneOf connectives_fixed said))]
      simp only [connected.mpr read, each.mpr ⟨rest, more⟩, Bool.or_true]

theorem continuation_iff :
    continuation grammar entry text = true ↔
      Starts (Either (ClauseStart entry) (Either (Name entry.forms) (HopStart grammar))) text := by
  -- A projection begins with a property, so it adds nothing.
  have projected : (projection entry).accepts text = true → ∃ rest key, Key entry key text rest := by
    intro accepted
    obtain ⟨keys, rest, read⟩ := exists_read_of_accepts accepted
    simp only [projection, propertyList, read?_bind_eq_some] at read
    obtain ⟨_, _, ⟨key, rest, read, _⟩, _⟩ := read
    exact ⟨rest, key, key_of_read read⟩
  simp only [continuation, Bool.or_eq_true, word_accepts_iff, property_accepts_iff, lookup_accepts_iff,
    typeName_accepts_iff, relationshipStart_accepts_iff worded, Starts, Either, ClauseStart, exists_or]
  grind

theorem endsValue_iff : endsValue grammar entry text = true ↔ Starts (Continuation grammar entry) text :=
  stopsBefore_iff worded (continuation_iff worded) (solid_of_more worded)

end Worded

/-! Splitting a text. -/

theorem splitAtStop_eq {stops : List Char → Bool} {read rest : List Char}
    (unbroken : ∀ before after, read = before ++ ' ' :: after → stops (' ' :: after ++ rest) = false)
    (bounded : rest = [] ∨ rest.head? = some ' ' ∧ stops rest = true) :
    splitAtStop stops (read ++ rest) = (read, rest) := by
  induction read with
  | nil =>
    rcases bounded with rfl | ⟨space, stop⟩
    · rfl
    · cases rest with
      | nil => rfl
      | cons c more =>
        obtain rfl : c = ' ' := by simpa using space
        rw [List.nil_append, splitAtStop, stop]
        rfl
  | cons c more ih =>
    have tail := ih fun before after split => unbroken (c :: before) after (by rw [split]; rfl)
    rw [List.cons_append, splitAtStop, tail, if_neg]
    simp only [Bool.and_eq_true, decide_eq_true_eq, not_and]
    rintro rfl stop
    have goes := unbroken [] more rfl
    rw [List.cons_append, stop] at goes
    cases goes

theorem stops_of_splitAtStop {stops : List Char → Bool} {read : List Char}
    (split : splitAtStop stops text = (read, rest)) :
    text = read ++ rest ∧
      (∀ before after, read = before ++ ' ' :: after → stops (' ' :: after ++ rest) = false) ∧
        (rest = [] ∨ rest.head? = some ' ' ∧ stops rest = true) := by
  induction text generalizing read with
  | nil =>
    obtain ⟨rfl, rfl⟩ := Prod.mk.inj split
    simp
  | cons c text ih =>
    rw [splitAtStop] at split
    split at split
    · next stop =>
      obtain ⟨rfl, rfl⟩ := Prod.mk.inj split
      obtain ⟨rfl, stop⟩ : c = ' ' ∧ stops (c :: text) = true := by simpa using stop
      simp [stop]
    · next goes =>
      obtain ⟨rfl, rfl⟩ := Prod.mk.inj split
      obtain ⟨whole, unbroken, bounded⟩ := ih rfl
      refine ⟨by rw [List.cons_append, ← whole], fun before after same => ?_, bounded⟩
      cases before with
      | nil =>
        obtain ⟨rfl, rfl⟩ := List.cons.inj same
        rw [List.cons_append, ← whole]
        simpa using goes
      | cons first before => exact unbroken before after (List.cons.inj same).2

end GraphQuery.Query
