import GraphQuery.Proofs.Grammar.Vocabulary
import GraphQuery.Proofs.Query.Progress
import GraphQuery.Proofs.Query.Recorder

/-! Recordings of the productions of the query language.

Each one tracks the production of its name. Words, names and values are cut off a text by their bytes, and
the lookahead of a value runs quietly. -/

set_option autoImplicit false

namespace GraphQuery.Query.Recording

open Text Grammar Query.Language

/-! Pieces. -/

/-- Reads as many bytes as a word or a name has, where the text begins with it and no longer word does. -/
def readPiece (begins : List Char → Bool) (size : Nat) : Recording (List Char) := fun text => do
  if begins text then
    let (found, rest) ← cut size text
    Pure.pure (if wordEnds found rest then some (found, rest) else none)
  else Pure.pure none

def readWord (word : List Char) : Recording Unit := do
  let _ ← readPiece (beginsLike word) (byteLength word)
  pure ()

def word (word : String) : Recording Unit :=
  (readWord word.toList).orExpect [.word word]

def anyWord (words : List String) : Recording Unit :=
  firstOf (words.map word)

def space : Recording Unit :=
  (ofReader readSpace?).orExpect [.whitespace]

def endOfQuery : Recording Unit :=
  (ofReader readEnd?).orExpect [.endOfQuery]

def phrase : List String → Recording Unit
  | [] => pure ()
  | [last] => word last
  | first :: rest => do
    word first
    space
    phrase rest

def connective : Recording Unit :=
  anyWord connectives

def article : Recording Unit :=
  anyWord articles

def lookup : Recording Lookup :=
  firstOf (lookupPhrases.map fun (words, lookup) => do
    phrase words
    pure lookup)

def readForm (forms : List (List Char)) : Recording (List Char) :=
  firstOf (forms.map fun form => readPiece form.isPrefixOf (byteLength form))

def typeName (entry : TypeEntry) : Recording Unit :=
  orExpect
    (do
      let _ ← readForm entry.forms
      pure ())
    [.name entry.name]

def property (entry : TypeEntry) : Recording String :=
  orExpect
    (furthestOf (entry.properties.map fun property => do
      let _ ← readForm property.forms
      pure property.key))
    (entry.properties.map fun property => .name property.key)

def comma : Recording Unit :=
  (ofReader readComma?).orExpect []

def listSeparator : Recording Unit :=
  comma.orElse do
    space
    word "and"
    space

/-! Productions. -/

def propertyList (entry : TypeEntry) : Recording (List String) := do
  let first ← property entry
  let more ← many do
    listSeparator
    property entry
  pure (first :: more)

def projection (entry : TypeEntry) : Recording (List String) := do
  let keys ← propertyList entry
  space
  anyWord projectionJoiners
  space
  let _ ← optional do
    word "the"
    space
  pure keys

def relationshipStart (grammar : Grammar) : Recording Unit := do
  anyWord relationshipOpeners
  space
  firstOf (grammar.relationshipEntries.map typeName)

def continuation (grammar : Grammar) (entry : TypeEntry) (text : List Char) : Run Bool :=
  (word conditionOpener).accepts text
    <||> (property entry).accepts text
    <||> lookup.accepts text
    <||> (typeName entry).accepts text
    <||> (projection entry).accepts text
    <||> (relationshipStart grammar).accepts text

def endsValue (grammar : Grammar) (entry : TypeEntry) (text : List Char) : Run Bool :=
  quietly do
    match ← space text with
    | none => Pure.pure false
    | some (_, after) =>
      if ← (relationshipStart grammar).accepts after then Pure.pure true
      else
        match ← (do connective; space : Recording Unit) after with
        | none => Pure.pure false
        | some (_, next) => continuation grammar entry next

/-- Where a bare value ends, of which the characters before `place` are known to be part. -/
def bareEnd (stops : List Char → Run Bool) (text : List Char) : Nat → List Char → Run Nat
  | place, [] => Pure.pure place
  | place, c :: ahead => do
    if c = ' ' then
      let (_, behind) ← cut place text
      if ← stops behind then Pure.pure place
      else bareEnd stops text (place + c.utf8Size) ahead
    else bareEnd stops text (place + c.utf8Size) ahead

def readBare (stops : List Char → Run Bool) : Recording Value := fun text => do
  let place ← bareEnd stops text 0 text
  if place = 0 then Pure.pure none
  else
    let (read, rest) ← cut place text
    Pure.pure (some (.bare (.ofList read), rest))

def value (grammar : Grammar) (entry : TypeEntry) : Recording Value :=
  orExpect ((ofReader readLiteral?).orElse (readBare (endsValue grammar entry))) [.value]

def conditionOpening : Recording Unit := do
  word conditionOpener
  let _ ← optional do
    space
    article
  space

def comparison (grammar : Grammar) (entry : TypeEntry) : Recording (Lookup × Value) := do
  space
  let lookup ← optional lookup
  if lookup.isSome then space
  let value ← value grammar entry
  pure (lookup.getD defaultLookup, value)

def namedCondition (grammar : Grammar) (entry : TypeEntry) : Recording Clause := do
  let key ← property entry
  let (lookup, value) ← orElse
    (do
      space
      word "of"
      comparison grammar entry)
    (comparison grammar entry)
  pure ⟨key, lookup, value⟩

def impliedCondition (grammar : Grammar) (entry : TypeEntry) : Recording Clause :=
  match entry.onlyProperty? with
  | none => reject
  | some only => do
    let lookup ← lookup
    space
    let value ← value grammar entry
    pure ⟨only.key, lookup, value⟩

def condition (grammar : Grammar) (entry : TypeEntry) : Recording Clause := do
  let _ ← conditionOpening.optional
  orElse (namedCondition grammar entry) (impliedCondition grammar entry)

def joined {α : Type} (recording : Recording α) : Recording α := do
  space
  connective
  space
  recording

def conditions (grammar : Grammar) (entry : TypeEntry) : Recording (List Clause) := do
  let found ← optional do
    space
    let first ← condition grammar entry
    let more ← (joined (condition grammar entry)).many
    pure (first :: more)
  pure (found.getD [])

def nodeFacet (grammar : Grammar) (entry : TypeEntry) : Recording Facet := do
  let keys ← (projection entry).optional
  typeName entry
  let clauses ← conditions grammar entry
  pure ⟨entry.id, keys, clauses⟩

def anyNodeFacet (grammar : Grammar) : Recording (TypeEntry × Facet) :=
  furthestOf (grammar.nodeEntries.map fun entry => do
    let facet ← nodeFacet grammar entry
    pure (entry, facet))

def group (grammar : Grammar) : Recording (List Facet) := do
  let (entry, first) ← anyNodeFacet grammar
  let more ← (joined (nodeFacet grammar entry)).many
  pure (first :: more)

def relationshipFacet (entry : TypeEntry) : Recording TypeId := do
  let _ ← optional do
    connective
    space
  anyWord relationshipOpeners
  space
  typeName entry
  let _ ← optional do
    space
    article
  pure entry.id

def anyRelationshipFacet (grammar : Grammar) : Recording TypeId :=
  furthestOf (grammar.relationshipEntries.map relationshipFacet)

def hop (grammar : Grammar) : Recording Hop := do
  space
  let relation ← anyRelationshipFacet grammar
  space
  let targets ← group grammar
  pure ⟨relation, targets⟩

def tree (grammar : Grammar) : Recording Tree := do
  let sources ← group grammar
  let hops ← (hop grammar).many
  endOfQuery
  pure ⟨sources, hops⟩

/-! Agreement. -/

section Readers
variable {word : List Char} {stops : List Char → Run Bool} {stops' : List Char → Bool}

theorem reads_piece {begins : List Char → Bool} {size : Nat}
    (safe : ∀ {text : List Char}, begins text = true → ∃ split, splitAtByte? size text = some split) :
    Reads (readPiece begins size) fun text =>
      if begins text then (splitAtByte? size text).filter fun split => wordEnds split.1 split.2
      else none := by
  intro text recorder
  rw [readPiece]
  beta_reduce
  cases begun : begins text with
  | true =>
    obtain ⟨⟨found, rest⟩, split⟩ := safe begun
    rw [if_pos rfl, if_pos rfl, run_bind (cut_of_split split), split]
    rfl
  | false => rfl

theorem reads_word (plain : ∀ c ∈ word, Plain c) : Reads (readWord word) (readWord? word) := by
  refine ((reads_piece fun alike => ⟨_, splitAtByte?_of_beginsLike plain alike⟩).replace ()).of_eq
    fun text => ?_
  rw [readWord?, ← beginsLike_eq plain]
  cases alike : beginsLike word text with
  | true =>
    rw [if_pos rfl, splitAtByte?_of_beginsLike plain alike]
    cases ends : wordEnds (text.take word.length) (text.drop word.length) <;> simp [ends]
  | false => rfl

theorem reads_oneForm (form : List Char) : Reads (readPiece form.isPrefixOf (byteLength form)) fun text =>
    (form.isPrefixOf? text).bind fun rest => if wordEnds form rest then some (form, rest) else none := by
  refine (reads_piece fun begun => ?_).of_eq fun text => ?_
  · obtain ⟨rest, rfl⟩ := List.isPrefixOf_iff_prefix.mp begun
    exact ⟨_, splitAtByte?_append form rest⟩
  · cases split : form.isPrefixOf? text with
    | none =>
      refine if_neg fun begun => ?_
      obtain ⟨rest, same⟩ := List.isPrefixOf_iff_prefix.mp begun
      rw [List.isPrefixOf?_eq_some_iff_append_eq.mpr same] at split
      cases split
    | some rest =>
      obtain rfl := List.isPrefixOf?_eq_some_iff_append_eq.mp split
      rw [if_pos (List.isPrefixOf_iff_prefix.mpr (List.prefix_append form rest)), splitAtByte?_append]
      cases ends : wordEnds form rest <;> simp [ends]

theorem reads_form (forms : List (List Char)) : Reads (readForm forms) (readForm? forms) := by
  induction forms with
  | nil => exact fun _ _ => rfl
  | cons form others ih =>
    refine ((reads_oneForm form).orElse ih).of_eq fun text => ?_
    rw [readForm?, readForm?, List.findSome?_cons]
    cases ((form.isPrefixOf? text).bind fun rest =>
      if wordEnds form rest then some (form, rest) else none) <;> rfl

/-- Up to where it stops, a bare value is cut between its characters. -/
theorem bareEnd_eq (test : ∀ (text : List Char) (recorder : Recorder),
      stops text recorder = .ok (stops' text, recorder)) (before ahead : List Char) (recorder : Recorder) :
    bareEnd stops (before ++ ahead) (byteLength before) ahead recorder =
      .ok (byteLength (before ++ (splitAtStop stops' ahead).1), recorder) := by
  induction ahead generalizing before with
  | nil =>
    rw [bareEnd, splitAtStop, List.append_nil]
    rfl
  | cons c ahead ih =>
    -- With one more character known to be part of the value.
    have next := ih (before ++ [c])
    rw [List.append_assoc, List.singleton_append, byteLength_append, byteLength_cons, byteLength_nil,
      Nat.add_zero] at next
    rw [bareEnd, splitAtStop]
    by_cases blank : c = ' '
    · rw [if_pos blank, run_bind (cut_of_split (splitAtByte?_append before (c :: ahead)))]
      simp only
      rw [run_bind (test (c :: ahead) recorder)]
      cases stop : stops' (c :: ahead) with
      | true => simp [blank]; rfl
      | false => simpa [blank] using next
    · rw [if_neg blank, next]
      simp [blank]

theorem reads_bare (test : ∀ (text : List Char) (recorder : Recorder),
    stops text recorder = .ok (stops' text, recorder)) : Reads (readBare stops) (readBare? stops') := by
  intro text recorder
  have place := bareEnd_eq test [] text recorder
  have whole := splitAtStop_append stops' text
  rw [List.nil_append, List.nil_append, byteLength_nil] at place
  rw [readBare, run_bind place, readBare?]
  rcases split : splitAtStop stops' text with ⟨_ | ⟨c, read⟩, rest⟩
  · rfl
  · have positive := c.utf8Size_pos
    have some : byteLength (c :: read) ≠ 0 := by
      rw [byteLength_cons]
      omega
    rw [split] at whole
    rw [if_neg some, ← whole, run_bind (cut_of_split (splitAtByte?_append (c :: read) rest))]
    rfl

end Readers

section Productions
variable {grammar : Grammar} {entry : TypeEntry}

theorem tracks_word {expected : String} (fixed : expected ∈ fixedWords) :
    Tracks (word expected) (Query.word expected) :=
  .piece (reads_word (plain_of_mem_fixedWords fixed).2) _ (forward_word expected)

theorem tracks_anyWord {words : List String} (fixed : ∀ expected ∈ words, expected ∈ fixedWords) :
    Tracks (anyWord words) (Query.anyWord words) :=
  .firstOf fun expected member => tracks_word (fixed expected member)

theorem tracks_space : Tracks space Query.space :=
  .piece (.ofReader _) _ forward_space

theorem tracks_endOfQuery : Tracks endOfQuery Query.endOfQuery :=
  .piece (.ofReader _) _ forward_endOfQuery

theorem tracks_phrase {words : List String} (fixed : ∀ expected ∈ words, expected ∈ fixedWords) :
    Tracks (phrase words) (Query.phrase words) := by
  induction words with
  | nil => exact .pure ()
  | cons first others ih =>
    obtain ⟨head, tail⟩ := List.forall_mem_cons.mp fixed
    cases others with
    | nil => exact tracks_word head
    | cons second others => exact .bind (tracks_word head) fun _ => .bind tracks_space fun _ => ih tail

theorem tracks_connective : Tracks connective Query.connective :=
  tracks_anyWord (by decide)

theorem tracks_article : Tracks article Query.article :=
  tracks_anyWord (by decide)

theorem tracks_lookup : Tracks lookup Query.lookup := by
  refine .firstOf fun found member => .bind (tracks_phrase ?_) fun _ => .pure found.2
  have fixed : ∀ found ∈ lookupPhrases, ∀ expected ∈ found.1, expected ∈ fixedWords := by decide
  exact fixed found member

theorem tracks_typeName (entry : TypeEntry) : Tracks (typeName entry) (Query.typeName entry) :=
  .piece ((reads_form entry.forms).replace ()) _ (forward_typeName entry)

theorem tracks_property (entry : TypeEntry) : Tracks (property entry) (Query.property entry) :=
  .piece (.furthestOf fun found _ => (reads_form found.forms).replace found.key) _ (forward_property entry)

theorem tracks_comma : Tracks comma Query.comma :=
  .piece (.ofReader _) _ forward_comma

theorem tracks_listSeparator : Tracks listSeparator Query.listSeparator :=
  .orElse tracks_comma
    (.bind tracks_space fun _ => .bind (tracks_word (by decide)) fun _ => tracks_space)

/-! A loop comes to an end, since each round of it reads a separator. -/

theorem length_lt_of_nextProperty {text rest : List Char} {key : String}
    (read : (do Query.listSeparator; Query.property entry : Matcher String).read? text = some (key, rest)) :
    rest.length < text.length := by
  obtain ⟨_, middle, separated, named⟩ := Matcher.read?_bind_eq_some.mp read
  exact Nat.lt_of_le_of_lt ((forward_property entry).rest named).length_le
    (length_lt_of_listSeparator (listSeparator_of_read separated))

theorem length_lt_of_joined {α : Type} {matcher : Matcher α} (forward : matcher.Forward)
    {text rest : List Char} {value : α} (read : (Query.joined matcher).read? text = some (value, rest)) :
    rest.length < text.length := by
  obtain ⟨middle, joint, suffix⟩ :=
    @joined_of_read _ _ _ _ (fun _ text rest => rest <:+ text) (fun read => forward.rest read) _ read
  exact Nat.lt_of_le_of_lt suffix.length_le (length_lt_of_joint joint)

theorem length_lt_of_hop {text rest : List Char} {found : Hop}
    (read : (Query.hop grammar).read? text = some (found, rest)) : rest.length < text.length :=
  length_lt_of_hopText (hop_of_read read)

theorem tracks_propertyList (entry : TypeEntry) :
    Tracks (propertyList entry) (Query.propertyList entry) :=
  .bind (tracks_property entry) fun _ =>
    .bind (.many (.bind tracks_listSeparator fun _ => tracks_property entry) length_lt_of_nextProperty)
      fun _ => .pure _

theorem tracks_projection (entry : TypeEntry) : Tracks (projection entry) (Query.projection entry) :=
  .bind (tracks_propertyList entry) fun _ =>
    .bind tracks_space fun _ =>
      .bind (tracks_anyWord (by decide)) fun _ =>
        .bind tracks_space fun _ =>
          .bind (.optional (.bind (tracks_word (by decide)) fun _ => tracks_space)) fun _ => .pure _

theorem tracks_relationshipStart : Tracks (relationshipStart grammar) (Query.relationshipStart grammar) :=
  .bind (tracks_anyWord (by decide)) fun _ =>
    .bind tracks_space fun _ => .firstOf fun entry _ => tracks_typeName entry

theorem run_orM {first second : Run Bool} {recorder : Recorder} {value other : Bool}
    (ran : first recorder = .ok (value, recorder)) (ran' : second recorder = .ok (other, recorder)) :
    (first <||> second) recorder = .ok (value || other, recorder) := by
  show (first >>= _) recorder = _
  rw [run_bind ran]
  cases value with
  | true => rfl
  | false => exact ran'

theorem continuation_eq {recorder : Recorder} (quiet : 0 < recorder.quiet) (text : List Char) :
    continuation grammar entry text recorder = .ok (Query.continuation grammar entry text, recorder) := by
  rw [Query.continuation, Bool.or_assoc, Bool.or_assoc, Bool.or_assoc, Bool.or_assoc]
  apply run_orM ((tracks_word (by decide)).accepts quiet text)
  apply run_orM ((tracks_property entry).accepts quiet text)
  apply run_orM (tracks_lookup.accepts quiet text)
  apply run_orM ((tracks_typeName entry).accepts quiet text)
  apply run_orM ((tracks_projection entry).accepts quiet text)
  exact tracks_relationshipStart.accepts quiet text

/-- The lookahead leaves everything as it was, at any place and inside of any other lookahead. -/
theorem endsValue_eq (grammar : Grammar) (entry : TypeEntry) (text : List Char) (recorder : Recorder) :
    endsValue grammar entry text recorder = .ok (Query.endsValue grammar entry text, recorder) := by
  refine quietly_eq (fun {recorder} quiet => ?_) recorder
  have connected : Tracks (do connective; space) (do Query.connective; Query.space) :=
    .bind tracks_connective fun _ => tracks_space
  rw [run_bind (tracks_space.quiet quiet text), Query.endsValue]
  have spaced : (Query.space text).result = readSpace? text := Matcher.read?_piece _ readSpace? text
  rw [spaced]
  cases readSpace? text with
  | none => rfl
  | some reading =>
    simp only
    rw [run_bind (tracks_relationshipStart.accepts quiet reading.2)]
    cases (Query.relationshipStart grammar).accepts reading.2 with
    | true => rfl
    | false =>
      rw [Bool.false_or, if_neg Bool.false_ne_true, run_bind (connected.quiet quiet reading.2)]
      rcases ((do Query.connective; Query.space : Matcher Unit) reading.2).result with _ | ⟨_, next⟩
      · rfl
      · exact continuation_eq quiet next

theorem tracks_value : Tracks (value grammar entry) (Query.value grammar entry) :=
  .piece ((Reads.ofReader readLiteral?).orElse (reads_bare (endsValue_eq grammar entry))) _ forward_value

theorem tracks_conditionOpening : Tracks conditionOpening Query.conditionOpening :=
  .bind (tracks_word (by decide)) fun _ =>
    .bind (.optional (.bind tracks_space fun _ => tracks_article)) fun _ => tracks_space

theorem tracks_comparison : Tracks (comparison grammar entry) (Query.comparison grammar entry) := by
  refine .bind tracks_space fun _ => .bind (.optional tracks_lookup) fun found => ?_
  cases found with
  | none => exact .bind tracks_value fun _ => .pure _
  | some => exact .bind tracks_space fun _ => .bind tracks_value fun _ => .pure _

theorem tracks_namedCondition :
    Tracks (namedCondition grammar entry) (Query.namedCondition grammar entry) :=
  .bind (tracks_property entry) fun _ =>
    .bind (.orElse (.bind tracks_space fun _ => .bind (tracks_word (by decide)) fun _ => tracks_comparison)
      tracks_comparison) fun _ => .pure _

theorem tracks_impliedCondition :
    Tracks (impliedCondition grammar entry) (Query.impliedCondition grammar entry) := by
  unfold impliedCondition Query.impliedCondition
  cases entry.onlyProperty? with
  | none => exact .reject
  | some only =>
    exact .bind tracks_lookup fun _ => .bind tracks_space fun _ => .bind tracks_value fun _ => .pure _

theorem tracks_condition : Tracks (condition grammar entry) (Query.condition grammar entry) :=
  .bind (.optional tracks_conditionOpening) fun _ => .orElse tracks_namedCondition tracks_impliedCondition

theorem tracks_joined {α : Type} {recording : Recording α} {matcher : Matcher α}
    (tracks : Tracks recording matcher) : Tracks (joined recording) (Query.joined matcher) :=
  .bind tracks_space fun _ => .bind tracks_connective fun _ => .bind tracks_space fun _ => tracks

theorem tracks_conditions : Tracks (conditions grammar entry) (Query.conditions grammar entry) :=
  .bind (.optional (.bind tracks_space fun _ => .bind tracks_condition fun _ =>
    .bind (.many (tracks_joined tracks_condition) (length_lt_of_joined forward_condition))
      fun _ => .pure _)) fun _ => .pure _

theorem tracks_nodeFacet : Tracks (nodeFacet grammar entry) (Query.nodeFacet grammar entry) :=
  .bind (.optional (tracks_projection entry)) fun _ =>
    .bind (tracks_typeName entry) fun _ => .bind tracks_conditions fun _ => .pure _

theorem tracks_anyNodeFacet : Tracks (anyNodeFacet grammar) (Query.anyNodeFacet grammar) :=
  .furthestOf fun _ _ => .bind tracks_nodeFacet fun _ => .pure _

theorem tracks_group : Tracks (group grammar) (Query.group grammar) :=
  .bind tracks_anyNodeFacet fun _ =>
    .bind (.many (tracks_joined tracks_nodeFacet) (length_lt_of_joined forward_nodeFacet)) fun _ => .pure _

theorem tracks_relationshipFacet (entry : TypeEntry) :
    Tracks (relationshipFacet entry) (Query.relationshipFacet entry) :=
  .bind (.optional (.bind tracks_connective fun _ => tracks_space)) fun _ =>
    .bind (tracks_anyWord (by decide)) fun _ =>
      .bind tracks_space fun _ =>
        .bind (tracks_typeName entry) fun _ =>
          .bind (.optional (.bind tracks_space fun _ => tracks_article)) fun _ => .pure _

theorem tracks_anyRelationshipFacet :
    Tracks (anyRelationshipFacet grammar) (Query.anyRelationshipFacet grammar) :=
  .furthestOf fun entry _ => tracks_relationshipFacet entry

theorem tracks_hop : Tracks (hop grammar) (Query.hop grammar) :=
  .bind tracks_space fun _ =>
    .bind tracks_anyRelationshipFacet fun _ =>
      .bind tracks_space fun _ => .bind tracks_group fun _ => .pure _

theorem tracks_tree : Tracks (tree grammar) (Query.tree grammar) :=
  .bind tracks_group fun _ =>
    .bind (.many tracks_hop length_lt_of_hop) fun _ => .bind tracks_endOfQuery fun _ => .pure _

end Productions

end GraphQuery.Query.Recording

namespace GraphQuery.Query

open Grammar Recording

inductive Production (grammar : Grammar) : {α : Type} → Recording α → Matcher α → Prop where
  | word {expected : String} : expected ∈ fixedWords →
      Production grammar (Recording.word expected) (Query.word expected)
  | anyWord {words : List String} : (∀ expected ∈ words, expected ∈ fixedWords) →
      Production grammar (Recording.anyWord words) (Query.anyWord words)
  | phrase {words : List String} : (∀ expected ∈ words, expected ∈ fixedWords) →
      Production grammar (Recording.phrase words) (Query.phrase words)
  | space : Production grammar Recording.space Query.space
  | endOfQuery : Production grammar Recording.endOfQuery Query.endOfQuery
  | connective : Production grammar Recording.connective Query.connective
  | lookup : Production grammar Recording.lookup Query.lookup
  | typeName (entry : TypeEntry) : Production grammar (Recording.typeName entry) (Query.typeName entry)
  | property (entry : TypeEntry) : Production grammar (Recording.property entry) (Query.property entry)
  | listSeparator : Production grammar Recording.listSeparator Query.listSeparator
  | propertyList (entry : TypeEntry) :
      Production grammar (Recording.propertyList entry) (Query.propertyList entry)
  | projection (entry : TypeEntry) :
      Production grammar (Recording.projection entry) (Query.projection entry)
  | value (entry : TypeEntry) :
      Production grammar (Recording.value grammar entry) (Query.value grammar entry)
  | relationshipStart :
      Production grammar (Recording.relationshipStart grammar) (Query.relationshipStart grammar)
  | conditionOpening : Production grammar Recording.conditionOpening Query.conditionOpening
  | condition (entry : TypeEntry) :
      Production grammar (Recording.condition grammar entry) (Query.condition grammar entry)
  | namedCondition (entry : TypeEntry) :
      Production grammar (Recording.namedCondition grammar entry) (Query.namedCondition grammar entry)
  | comparison (entry : TypeEntry) :
      Production grammar (Recording.comparison grammar entry) (Query.comparison grammar entry)
  | conditions (entry : TypeEntry) :
      Production grammar (Recording.conditions grammar entry) (Query.conditions grammar entry)
  | nodeFacet (entry : TypeEntry) :
      Production grammar (Recording.nodeFacet grammar entry) (Query.nodeFacet grammar entry)
  | anyNodeFacet : Production grammar (Recording.anyNodeFacet grammar) (Query.anyNodeFacet grammar)
  | group : Production grammar (Recording.group grammar) (Query.group grammar)
  | relationshipFacet (entry : TypeEntry) :
      Production grammar (Recording.relationshipFacet entry) (Query.relationshipFacet entry)
  | anyRelationshipFacet :
      Production grammar (Recording.anyRelationshipFacet grammar) (Query.anyRelationshipFacet grammar)
  | hop : Production grammar (Recording.hop grammar) (Query.hop grammar)
  | tree : Production grammar (Recording.tree grammar) (Query.tree grammar)

theorem Production.tracks {grammar : Grammar} {α : Type} {recording : Recording α} {matcher : Matcher α}
    (production : Production grammar recording matcher) : Tracks recording matcher := by
  cases production with
  | word fixed => exact tracks_word fixed
  | anyWord fixed => exact tracks_anyWord fixed
  | phrase fixed => exact tracks_phrase fixed
  | space => exact tracks_space
  | endOfQuery => exact tracks_endOfQuery
  | connective => exact tracks_connective
  | lookup => exact tracks_lookup
  | typeName entry => exact tracks_typeName entry
  | property entry => exact tracks_property entry
  | listSeparator => exact tracks_listSeparator
  | propertyList entry => exact tracks_propertyList entry
  | projection entry => exact tracks_projection entry
  | value => exact tracks_value
  | relationshipStart => exact tracks_relationshipStart
  | conditionOpening => exact tracks_conditionOpening
  | condition => exact tracks_condition
  | namedCondition => exact tracks_namedCondition
  | comparison => exact tracks_comparison
  | conditions => exact tracks_conditions
  | nodeFacet => exact tracks_nodeFacet
  | anyNodeFacet => exact tracks_anyNodeFacet
  | group => exact tracks_group
  | relationshipFacet entry => exact tracks_relationshipFacet entry
  | anyRelationshipFacet => exact tracks_anyRelationshipFacet
  | hop => exact tracks_hop
  | tree => exact tracks_tree

end GraphQuery.Query
