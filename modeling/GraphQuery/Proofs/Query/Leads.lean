import GraphQuery.Proofs.Grammar.Vocabulary
import GraphQuery.Proofs.Query.Soundness

/-! The word that a text begins with.

Over a clear vocabulary every fixed word and every name is told by the letters at the start of the
text. So the smallest pieces are read as they are written, and refused where others stand. -/

set_option autoImplicit false

namespace GraphQuery.Query

open Text Grammar Query.Language Matcher

variable {text rest : List Char}

def lead (text : List Char) : List Char :=
  text.takeWhile Char.isAlpha

def afterLead (text : List Char) : List Char :=
  text.dropWhile Char.isAlpha

/-- No space and no tab comes first. -/
def Solid (text : List Char) : Prop :=
  text.dropWhile isBlank = text

def Starts (span : Span) (text : List Char) : Prop :=
  ∃ rest, span text rest

theorem not_isBlank_of_isAlpha {c : Char} (alpha : c.isAlpha = true) : isBlank c = false :=
  ascii_induction (P := fun c => c.isAlpha = true → isBlank c = false) (by decide)
    (toNat_lt_of_isAlpha alpha) alpha

theorem solid_cons {c : Char} : Solid (c :: text) ↔ isBlank c = false := by
  constructor
  · intro solid
    by_contra blank
    rw [Bool.not_eq_false] at blank
    have shorter := congrArg List.length solid
    rw [List.dropWhile_cons_of_pos blank, List.length_cons] at shorter
    have := (List.dropWhile_sublist (l := text) isBlank).length_le
    omega
  · intro other
    exact List.dropWhile_cons_of_neg (by simp [other])

theorem Solid.append (solid : Solid text) (nonempty : text ≠ []) : Solid (text ++ rest) := by
  cases text with
  | nil => exact absurd rfl nonempty
  | cons c more => exact solid_cons.mpr (solid_cons.mp solid)

theorem lead_append {found : List Char} (lettered : Lettered found)
    (ends : wordEnds found rest = true) :
    lead (found ++ rest) = found ∧ afterLead (found ++ rest) = rest := by
  have nothing : rest.takeWhile Char.isAlpha = [] ∧ rest.dropWhile Char.isAlpha = rest := by
    cases rest with
    | nil => exact ⟨rfl, rfl⟩
    | cons next more =>
      have last := List.getLast?_eq_some_getLast lettered.1
      -- One more letter would go on with the word.
      have stops : next.isAlpha = false := by
        rw [Bool.eq_false_iff]
        intro alpha
        simp [wordEnds, last, isWordChar_of_isAlpha alpha,
          isWordChar_of_isAlpha (lettered.2 _ (List.getLast_mem lettered.1))] at ends
      simp [stops]
  rw [lead, afterLead, List.takeWhile_append_of_pos lettered.2,
    List.dropWhile_append_of_pos lettered.2, nothing.1, nothing.2]
  exact ⟨List.append_nil found, rfl⟩

theorem solid_of_lead (word : lead text ≠ []) : Solid text := by
  cases text with
  | nil => rfl
  | cons c more =>
    have alpha : c.isAlpha = true := by
      by_contra other
      exact word (List.takeWhile_cons_of_neg other)
    exact solid_cons.mpr (not_isBlank_of_isAlpha alpha)

/-! What the smallest pieces say about the lead. -/

def Fixed (word : String) (text : List Char) : Prop :=
  word ∈ fixedWords ∧ equalFold (lead text) word.toList = true

theorem fixed_of_word {word : String} (fixed : word ∈ fixedWords) (said : Word word text rest) :
    Fixed word text ∧ rest = afterLead text := by
  obtain ⟨found, rfl, same, ends⟩ := said
  obtain ⟨before, after⟩ := lead_append (lettered_of_equalFold fixed same) ends
  exact ⟨⟨fixed, by rwa [before]⟩, after.symm⟩

theorem fixed_of_oneOf {words : List String} (fixed : ∀ word ∈ words, word ∈ fixedWords)
    (said : OneOf words text rest) :
    ∃ word ∈ words, Fixed word text ∧ rest = afterLead text := by
  obtain ⟨word, member, said⟩ := said
  exact ⟨word, member, fixed_of_word (fixed word member) said⟩

theorem lead_of_name {forms : List (List Char)} (lettered : ∀ form ∈ forms, Lettered form)
    (said : Name forms text rest) : lead text ∈ forms ∧ rest = afterLead text := by
  obtain ⟨form, member, rfl, ends⟩ := said
  obtain ⟨before, after⟩ := lead_append (lettered form member) ends
  exact ⟨before.symm ▸ member, after.symm⟩

theorem Fixed.solid {word : String} (said : Fixed word text) : Solid text :=
  solid_of_lead (lettered_of_equalFold said.1 said.2).1

theorem Fixed.unique {word other : String} (said : Fixed word text) (said' : Fixed other text) :
    word = other :=
  fixed_eq_of_equalFold said.1 said'.1 said.2 said'.2

/-! Words and spaces. -/

theorem read_word {expected : String} (said : Word expected text rest) :
    (word expected).read? text = some ((), rest) := by
  obtain ⟨found, rfl, same, ends⟩ := said
  have length := length_eq_of_equalFold same
  rw [word, read?_piece, readWord?, ← length, List.take_left, List.drop_left, same, ends]
  rfl

theorem word_refused {expected : String} (fixed : expected ∈ fixedWords)
    (other : ¬ Fixed expected text) : (word expected).read? text = none :=
  read?_eq_none fun read => other (fixed_of_word fixed (word_of_read read)).1

theorem read_anyWord {words : List String} (fixed : ∀ word ∈ words, word ∈ fixedWords)
    (said : OneOf words text rest) : (anyWord words).read? text = some ((), rest) := by
  obtain ⟨expected, member, said⟩ := said
  -- Some word is read, and every word at the start of the text ends where its letters do.
  have accepted : ((anyWord words).read? text).isSome := by
    rw [anyWord, read?_firstOf, List.findSome?_isSome_iff]
    exact ⟨word expected, List.mem_map_of_mem member, by rw [read_word said]; rfl⟩
  obtain ⟨⟨⟨⟩, after⟩, read⟩ := Option.isSome_iff_exists.mp accepted
  obtain ⟨_, _, _, same⟩ := fixed_of_oneOf fixed (exists_word_of_read read)
  rw [read, same, (fixed_of_word (fixed expected member) said).2]

theorem anyWord_refused {words : List String} (fixed : ∀ word ∈ words, word ∈ fixedWords)
    (others : ∀ word ∈ words, ¬ Fixed word text) : (anyWord words).read? text = none := by
  refine read?_eq_none fun read => ?_
  obtain ⟨word, member, begins, _⟩ := fixed_of_oneOf fixed (exists_word_of_read read)
  exact others word member begins

theorem dropWhile_of_gap (gap : Gap text rest) (solid : Solid rest) :
    text.dropWhile isBlank = rest := by
  obtain ⟨blanks, _, blank, rfl⟩ := gap
  rw [List.dropWhile_append_of_pos blank, solid]

theorem gap_unique {other : List Char} (gap : Gap text rest) (solid : Solid rest)
    (gap' : Gap text other) (solid' : Solid other) : rest = other :=
  (dropWhile_of_gap gap solid).symm.trans (dropWhile_of_gap gap' solid')

theorem read_space (gap : Gap text rest) (solid : Solid rest) :
    space.read? text = some ((), rest) := by
  have after := dropWhile_of_gap gap solid
  obtain ⟨blanks, nonempty, blank, rfl⟩ := gap
  cases blanks with
  | nil => exact absurd rfl nonempty
  | cons c more =>
    have first := blank c List.mem_cons_self
    rw [List.cons_append, List.dropWhile_cons_of_pos first] at after
    rw [space, read?_piece, List.cons_append, readSpace?, if_pos first, after]

theorem space_refused (solid : Solid text) : space.read? text = none := by
  refine read?_eq_none fun read => ?_
  obtain ⟨blanks, nonempty, blank, rfl⟩ := gap_of_read read
  cases blanks with
  | nil => exact nonempty rfl
  | cons c more =>
    have other := solid_cons.mp solid
    rw [blank c List.mem_cons_self] at other
    cases other

theorem joined_refused_of_end {α : Type} {matcher : Matcher α} : (joined matcher).read? [] = none :=
  read?_bind_of_eq_none (space_refused rfl)

/-! Names. -/

theorem isSome_readForm {forms : List (List Char)} (said : Name forms text rest) :
    (readForm? forms text).isSome := by
  obtain ⟨form, member, rfl, ends⟩ := said
  rw [readForm?, List.findSome?_isSome_iff]
  refine ⟨form, member, ?_⟩
  rw [List.isPrefixOf?_eq_some_iff_append_eq.mpr rfl, Option.bind_some, if_pos ends]
  rfl

theorem isSome_typeName {entry : TypeEntry} (said : Name entry.forms text rest) :
    ((typeName entry).read? text).isSome := by
  rw [typeName, read?_piece, Option.isSome_map]
  exact isSome_readForm said

theorem isSome_property {entry : TypeEntry} {key : String} (said : Key entry key text rest) :
    ((property entry).read? text).isSome := by
  obtain ⟨property, member, rfl, said⟩ := said
  obtain ⟨⟨form, after⟩, read⟩ := Option.isSome_iff_exists.mp (isSome_readForm said)
  have offered : some (property.key, after) ∈ entry.properties.map fun property =>
      (readForm? property.forms text).map fun reading => (property.key, reading.2) :=
    List.mem_map.mpr ⟨property, member, by rw [read, Option.map_some]⟩
  rw [Query.property, read?_piece]
  exact isSome_longest offered

theorem exists_readForm {forms : List (List Char)} (lettered : ∀ form ∈ forms, Lettered form)
    (said : Name forms text rest) : ∃ form, readForm? forms text = some (form, rest) := by
  -- As for words: any form that is read ends with the letters.
  obtain ⟨⟨form, after⟩, read⟩ := Option.isSome_iff_exists.mp (isSome_readForm said)
  have same := lead_of_name lettered ⟨form, name_of_readForm read⟩
  exact ⟨form, by rw [read, same.2, (lead_of_name lettered said).2]⟩

theorem read_typeName {entry : TypeEntry} (lettered : ∀ form ∈ entry.forms, Lettered form)
    (said : Name entry.forms text rest) : (typeName entry).read? text = some ((), rest) := by
  obtain ⟨form, read⟩ := exists_readForm lettered said
  rw [typeName, read?_piece, read, Option.map_some]

theorem typeName_refused {entry : TypeEntry} (lettered : ∀ form ∈ entry.forms, Lettered form)
    (other : lead text ∉ entry.forms) : (typeName entry).read? text = none :=
  read?_eq_none fun read => other (lead_of_name lettered (name_of_read read)).1

theorem lettered_of_keyForms {entry : TypeEntry}
    (lettered : ∀ form ∈ entry.keyForms, Lettered form) {property : PropertyEntry}
    (member : property ∈ entry.properties) : ∀ form ∈ property.forms, Lettered form :=
  fun form inside => lettered form (List.mem_flatMap.mpr ⟨property, member, inside⟩)

theorem lead_of_key {entry : TypeEntry} {key : String}
    (lettered : ∀ form ∈ entry.keyForms, Lettered form) (said : Key entry key text rest) :
    lead text ∈ entry.keyForms ∧ rest = afterLead text := by
  obtain ⟨property, member, _, said⟩ := said
  obtain ⟨inside, after⟩ := lead_of_name (lettered_of_keyForms lettered member) said
  exact ⟨List.mem_flatMap.mpr ⟨property, member, inside⟩, after⟩

theorem key_unique {entry : TypeEntry} {key other : String} {left : List Char}
    (lettered : ∀ form ∈ entry.keyForms, Lettered form)
    (distinct : entry.properties.Pairwise fun first second => Apart first.forms second.forms)
    (said : Key entry key text rest) (said' : Key entry other text left) :
    other = key ∧ left = rest := by
  refine ⟨?_, (lead_of_key lettered said').2.trans (lead_of_key lettered said).2.symm⟩
  obtain ⟨property, member, rfl, said⟩ := said
  obtain ⟨property', member', rfl, said'⟩ := said'
  rw [eq_of_pairwise_apart distinct member' member
    (lead_of_name (lettered_of_keyForms lettered member') said').1
    (lead_of_name (lettered_of_keyForms lettered member) said).1]

theorem read_property {entry : TypeEntry} {key : String}
    (lettered : ∀ form ∈ entry.keyForms, Lettered form)
    (distinct : entry.properties.Pairwise fun first second => Apart first.forms second.forms)
    (said : Key entry key text rest) : (property entry).read? text = some (key, rest) := by
  -- Some property is read, and its form tells which one.
  obtain ⟨⟨other, left⟩, read⟩ := Option.isSome_iff_exists.mp (isSome_property said)
  obtain ⟨rfl, rfl⟩ := key_unique lettered distinct said (key_of_read read)
  exact read

theorem property_refused {entry : TypeEntry} (lettered : ∀ form ∈ entry.keyForms, Lettered form)
    (other : lead text ∉ entry.keyForms) : (property entry).read? text = none :=
  read?_eq_none fun read => other (lead_of_key lettered (key_of_read read)).1

/-! Names are no fixed words. -/

section Clear
variable {grammar : Grammar} {entry : TypeEntry} {word : String} (clear : Clear grammar)
include clear

theorem not_fixed_of_node (member : entry ∈ grammar.nodeEntries)
    (found : lead text ∈ entry.forms ++ entry.keyForms) : ¬ Fixed word text := by
  rintro ⟨fixed, same⟩
  exact Bool.false_ne_true ((clear.node_free member found fixed).symm.trans same)

theorem not_fixed_of_name (member : entry ∈ grammar.nodeEntries) (named : lead text ∈ entry.forms) :
    ¬ Fixed word text :=
  not_fixed_of_node clear member (List.mem_append_left _ named)

theorem not_fixed_of_key (member : entry ∈ grammar.nodeEntries) (keyed : lead text ∈ entry.keyForms) :
    ¬ Fixed word text :=
  not_fixed_of_node clear member (List.mem_append_right _ keyed)

theorem not_fixed_of_relationship (member : entry ∈ grammar.relationshipEntries)
    (found : lead text ∈ entry.forms) : ¬ Fixed word text := by
  rintro ⟨fixed, same⟩
  exact Bool.false_ne_true ((clear.relationship_free member found fixed).symm.trans same)

end Clear

/-! Lookup phrases. -/

theorem fixed_of_mem_lookupPhrases {words : List String} {lookup : Lookup}
    (member : (words, lookup) ∈ lookupPhrases) : ∀ word ∈ words, word ∈ fixedWords := by
  have table : ∀ phrase ∈ lookupPhrases, ∀ word ∈ phrase.1, word ∈ fixedWords := by decide
  exact table _ member

theorem fixed_of_phrase {first : String} {others : List String} (fixed : first ∈ fixedWords)
    (said : Phrase (first :: others) text rest) : Fixed first text := by
  cases others with
  | nil => exact (fixed_of_word fixed said).1
  | cons second others =>
    obtain ⟨_, said, _⟩ := said
    exact (fixed_of_word fixed said).1

theorem phrase_start {first second : String} {others : List String}
    (fixed : ∀ word ∈ first :: second :: others, word ∈ fixedWords)
    (said : Phrase (first :: second :: others) text rest) :
    Fixed first text ∧ ∃ middle, Gap (afterLead text) middle ∧ Fixed second middle ∧
      Phrase (second :: others) middle rest := by
  obtain ⟨_, word, middle, gap, more⟩ := said
  obtain ⟨begins, rfl⟩ := fixed_of_word (fixed first List.mem_cons_self) word
  exact ⟨begins, middle, gap, fixed_of_phrase (fixed second (by simp)) more, more⟩

/-- Two phrases at the start of one text agree as far as the shorter one goes. -/
theorem phrase_unique {words others : List String} {left : List Char}
    (fixed : ∀ word ∈ words, word ∈ fixedWords) (fixed' : ∀ word ∈ others, word ∈ fixedWords)
    (said : Phrase words text rest) (said' : Phrase others text left) :
    (words <+: others ∨ others <+: words) ∧ (words = others → rest = left) := by
  induction words generalizing others text with
  | nil =>
    refine ⟨.inl List.nil_prefix, ?_⟩
    rintro rfl
    exact said.symm.trans said'
  | cons first words ih =>
    cases others with
    | nil => exact ⟨.inr List.nil_prefix, fun impossible => absurd impossible (List.cons_ne_nil _ _)⟩
    | cons first' others =>
      obtain rfl := (fixed_of_phrase (fixed first List.mem_cons_self) said).unique
        (fixed_of_phrase (fixed' first' List.mem_cons_self) said')
      cases words with
      | nil =>
        -- A phrase of one word is the start of the other one.
        refine ⟨.inl (by simp), ?_⟩
        intro same
        obtain rfl := (List.cons_inj_right first).mp same
        exact (fixed_of_word (fixed first List.mem_cons_self) said).2.trans
          (fixed_of_word (fixed first List.mem_cons_self) said').2.symm
      | cons second words =>
        cases others with
        | nil => exact ⟨.inr (by simp), fun impossible => by simp at impossible⟩
        | cons second' others =>
          obtain ⟨_, middle, gap, begins, more⟩ := phrase_start fixed said
          obtain ⟨_, middle', gap', begins', more'⟩ := phrase_start fixed' said'
          obtain rfl := gap_unique gap begins.solid gap' begins'.solid
          obtain ⟨agree, alike⟩ := ih (fun word member => fixed word (List.mem_cons_of_mem _ member))
            (fun word member => fixed' word (List.mem_cons_of_mem _ member)) more more'
          refine ⟨?_, fun same => alike ((List.cons_inj_right first).mp same)⟩
          simpa using agree

/-- No phrase is the start of another one, so that a text begins with one at most. -/
theorem lookupPhrase_unique {found other : Lookup} {left : List Char}
    (said : LookupPhrase found text rest) (said' : LookupPhrase other text left) :
    found = other ∧ rest = left := by
  obtain ⟨words, member, said⟩ := said
  obtain ⟨words', member', said'⟩ := said'
  have table : ∀ first ∈ lookupPhrases, ∀ second ∈ lookupPhrases, first.1 <+: second.1 →
      first = second := by decide
  obtain ⟨agree, alike⟩ := phrase_unique (fixed_of_mem_lookupPhrases member)
    (fixed_of_mem_lookupPhrases member') said said'
  have same : (words, found) = (words', other) := by
    rcases agree with agree | agree
    · exact table _ member _ member' agree
    · exact (table _ member' _ member agree).symm
  exact ⟨(Prod.mk.inj same).2, alike (Prod.mk.inj same).1⟩

theorem read_phrase {words : List String} (fixed : ∀ word ∈ words, word ∈ fixedWords)
    (said : Phrase words text rest) : (phrase words).read? text = some ((), rest) := by
  induction words generalizing text with
  | nil =>
    obtain rfl := said
    rfl
  | cons first words ih =>
    cases words with
    | nil => exact read_word said
    | cons second words =>
      obtain ⟨after, word, middle, gap, more⟩ := said
      have others : ∀ word ∈ second :: words, word ∈ fixedWords := fun word member =>
        fixed word (List.mem_cons_of_mem _ member)
      rw [phrase, read?_bind_of_eq_some (read_word word), read?_bind_of_eq_some
        (read_space gap (fixed_of_phrase (others second List.mem_cons_self) more).solid)]
      · exact ih others more
      · exact List.cons_ne_nil second words

theorem read_lookup {found : Lookup} (said : LookupPhrase found text rest) :
    lookup.read? text = some (found, rest) := by
  -- Some phrase is read, and the text begins with no other one.
  have accepted : (lookup.read? text).isSome := by
    obtain ⟨words, member, said⟩ := said
    rw [lookup, read?_firstOf, List.findSome?_isSome_iff]
    refine ⟨_, List.mem_map_of_mem member, ?_⟩
    rw [read?_bind_of_eq_some (read_phrase (fixed_of_mem_lookupPhrases member) said)]
    rfl
  obtain ⟨⟨other, left⟩, read⟩ := Option.isSome_iff_exists.mp accepted
  obtain ⟨rfl, rfl⟩ := lookupPhrase_unique said (lookupPhrase_of_read read)
  exact read

def lookupOpeners : List String :=
  lookupPhrases.filterMap (·.1.head?)

theorem long_of_mem_lookupPhrases {words : List String} {lookup : Lookup}
    (member : (words, lookup) ∈ lookupPhrases) :
    ∃ first second others, words = first :: second :: others := by
  have table : ∀ phrase ∈ lookupPhrases, 2 ≤ phrase.1.length := by decide
  have long : 2 ≤ words.length := table _ member
  match words, long with
  | first :: second :: others, _ => exact ⟨first, second, others, rfl⟩

/-- Every phrase has a second word, which tells it from a relationship. -/
theorem lookupPhrase_start {found : Lookup} (said : LookupPhrase found text rest) :
    ∃ first ∈ lookupOpeners, Fixed first text ∧
      ∃ second middle, Gap (afterLead text) middle ∧ Fixed second middle := by
  obtain ⟨words, member, said⟩ := said
  obtain ⟨first, second, others, rfl⟩ := long_of_mem_lookupPhrases member
  obtain ⟨begins, middle, gap, next, _⟩ := phrase_start (fixed_of_mem_lookupPhrases member) said
  exact ⟨first, List.mem_filterMap.mpr ⟨_, member, rfl⟩, begins, second, middle, gap, next⟩

theorem lookup_refused (not : ∀ found, ¬ Starts (LookupPhrase found) text) :
    lookup.read? text = none :=
  read?_eq_none fun {found rest} read => not found ⟨rest, lookupPhrase_of_read read⟩

/-! Separators. -/

theorem dropWhile_of_optional_gap (gap : Optional Gap text rest) (solid : Solid rest) :
    text.dropWhile isBlank = rest := by
  rcases gap with rfl | gap
  · exact solid
  · exact dropWhile_of_gap gap solid

theorem read_comma (said : Sequence [Optional Gap, Sign ',', Optional Gap] text rest)
    (solid : Solid rest) : comma.read? text = some ((), rest) := by
  obtain ⟨middle, before, after, sign, behind⟩ := said
  have opens : Solid middle := by
    rw [sign]
    rfl
  rw [comma, read?_piece, readComma?, dropWhile_of_optional_gap before opens, sign]
  simp only [dropWhile_of_optional_gap behind solid]

theorem comma_refused {middle : List Char} (gap : Gap text middle) (word : lead middle ≠ []) :
    comma.read? text = none := by
  rw [comma, read?_piece, readComma?, dropWhile_of_gap gap (solid_of_lead word)]
  split
  · exact absurd rfl word
  · rfl

theorem read_listSeparator (said : ListSeparator text rest) (solid : Solid rest) :
    listSeparator.read? text = some ((), rest) := by
  rw [listSeparator, read?_orElse]
  rcases said with sign | ⟨first, before, second, and, behind⟩
  · rw [read_comma sign solid, Option.some_or]
  · have begins := (fixed_of_word (by decide) and).1
    rw [comma_refused before (lettered_of_equalFold begins.1 begins.2).1, Option.none_or,
      read?_bind_of_eq_some (read_space before begins.solid),
      read?_bind_of_eq_some (read_word and), read_space behind solid]

end GraphQuery.Query
