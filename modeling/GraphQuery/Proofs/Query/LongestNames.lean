import GraphQuery.Proofs.Grammar.Forms
import GraphQuery.Proofs.Query.Leads
import GraphQuery.Proofs.Text.Precedence

/-! Names are read as far as they go.

The forms of a name are tried one after the other, and the first that fits is taken. Since longer forms come
first, no form that fits is longer. A shorter one is still tried where a word overruns the longer ones. Of the
properties of a type the one whose form is longest is read, and the first of those that have it. -/

set_option autoImplicit false

namespace GraphQuery

open Text Grammar Query

namespace Grammar
variable {words : List (List Char)} {text form rest other left : List Char}

/-- The text begins with one of the words, and nothing that follows runs on from it. -/
structure BeginsWith (words : List (List Char)) (text form rest : List Char) : Prop where
  listed : form ∈ words
  split : text = form ++ rest
  ends : wordEnds form rest = true

structure BeginsLongest (words : List (List Char)) (text form rest : List Char) : Prop
    extends BeginsWith words text form rest where
  longest : ∀ other left, BeginsWith words text other left → other.length ≤ form.length

theorem BeginsWith.le_iff (begins : BeginsWith words text form rest) {others : List (List Char)}
    (begins' : BeginsWith others text other left) : other.length ≤ form.length ↔ rest.length ≤ left.length := by
  have same := congrArg List.length (begins.split.symm.trans begins'.split)
  rw [List.length_append, List.length_append] at same
  omega

theorem BeginsLongest.unique (begins : BeginsLongest words text form rest)
    (begins' : BeginsLongest words text other left) : form = other ∧ rest = left :=
  List.append_inj (begins.split.symm.trans begins'.split)
    (Nat.le_antisymm (begins'.longest form rest begins.toBeginsWith)
      (begins.longest other left begins'.toBeginsWith))

/-! Reading one of several forms. -/

section Forms
variable {forms : List (List Char)}

theorem isSome_readForm_iff :
    (readForm? forms text).isSome = true ↔ ∃ form rest, BeginsWith forms text form rest := by
  constructor
  · intro read
    obtain ⟨⟨form, rest⟩, read⟩ := Option.isSome_iff_exists.mp read
    obtain ⟨listed, split, ends⟩ := name_of_readForm read
    exact ⟨form, rest, listed, split, ends⟩
  · rintro ⟨form, rest, listed, split, ends⟩
    exact isSome_readForm ⟨form, listed, split, ends⟩

theorem beginsLongest_of_readForm (sorted : LongestFirst forms)
    (read : readForm? forms text = some (form, rest)) : BeginsLongest forms text form rest := by
  obtain ⟨listed, split, ends⟩ := name_of_readForm read
  refine ⟨⟨listed, split, ends⟩, fun other left begins => ?_⟩
  obtain ⟨before, first, after, rfl, found, refused⟩ := List.findSome?_eq_some_iff.mp read
  obtain rfl : first = form := by
    obtain ⟨_, _, taken⟩ := Option.bind_eq_some_iff.mp found
    split at taken
    · exact (Prod.mk.inj (Option.some.inj taken)).1
    · cases taken
  have later := (List.pairwise_append.mp sorted).2.1
  -- What is tried before does not fit, and what comes after is no longer.
  rcases List.mem_append.mp begins.listed with tried | inside
  · have fits := refused other tried
    rw [List.isPrefixOf?_eq_some_iff_append_eq.mpr begins.split.symm, Option.bind_some,
      if_pos begins.ends] at fits
    cases fits
  · rcases List.mem_cons.mp inside with rfl | inside
    · exact Nat.le_refl _
    · exact (List.pairwise_cons.mp later).1 other inside

theorem readForm_eq_some_iff (sorted : LongestFirst forms) :
    readForm? forms text = some (form, rest) ↔ BeginsLongest forms text form rest := by
  refine ⟨beginsLongest_of_readForm sorted, fun begins => ?_⟩
  obtain ⟨⟨other, left⟩, read⟩ := Option.isSome_iff_exists.mp
    (isSome_readForm_iff.mpr ⟨form, rest, begins.toBeginsWith⟩)
  obtain ⟨rfl, rfl⟩ := begins.unique (beginsLongest_of_readForm sorted read)
  exact read

end Forms

/-! Reading a name. -/

section Names
variable {singular plural : List Char}

theorem beginsWith_forms :
    BeginsWith (forms singular plural) text form rest ↔
      BeginsWith (spellings singular ++ spellings plural) text form rest := by
  have same : form ∈ forms singular plural ↔ form ∈ spellings singular ++ spellings plural := by
    rw [mem_forms, List.mem_append]
  exact ⟨fun ⟨listed, split, ends⟩ => ⟨same.mp listed, split, ends⟩,
    fun ⟨listed, split, ends⟩ => ⟨same.mpr listed, split, ends⟩⟩

theorem beginsLongest_forms :
    BeginsLongest (forms singular plural) text form rest ↔
      BeginsLongest (spellings singular ++ spellings plural) text form rest := by
  constructor
  · rintro ⟨begins, longest⟩
    exact ⟨beginsWith_forms.mp begins, fun other left fits => longest other left (beginsWith_forms.mpr fits)⟩
  · rintro ⟨begins, longest⟩
    exact ⟨beginsWith_forms.mpr begins, fun other left fits => longest other left (beginsWith_forms.mp fits)⟩

end Names
end Grammar

/-! Reading a property. -/

def Property.spellings (property : Property) : List (List Char) :=
  Grammar.spellings property.key.toList ++ Grammar.spellings (property.key ++ "s").toList

/-- The longest form is one of the property at `index`, and of none before it. -/
structure BeginsWithProperty (properties : List Property) (text : List Char) (index : Nat)
    (property : Property) (form rest : List Char) : Prop where
  here : properties[index]? = some property
  begins : BeginsWith property.spellings text form rest
  longest : ∀ other ∈ properties, ∀ form' left, BeginsWith other.spellings text form' left →
    form'.length ≤ form.length
  first : ∀ earlier other, earlier < index → properties[earlier]? = some other →
    ¬BeginsWith other.spellings text form rest

section Properties
variable {properties : List Property} {property : Property} {index : Nat} {text rest : List Char} {key : String}

def readKey? (text : List Char) (property : Property) : Option (Reading String) :=
  (readForm? (PropertyEntry.ofKey property.key).forms text).map fun reading => (property.key, reading.2)

theorem readKey_eq_some_iff : readKey? text property = some (key, rest) ↔
    key = property.key ∧ ∃ form, BeginsLongest property.spellings text form rest := by
  have fits : ∀ form, readForm? (PropertyEntry.ofKey property.key).forms text = some (form, rest) ↔
      BeginsLongest property.spellings text form rest := fun form =>
    (readForm_eq_some_iff (longestFirst_forms _ _)).trans beginsLongest_forms
  simp only [readKey?, Option.map_eq_some_iff, Prod.mk.injEq, Prod.exists]
  constructor
  · rintro ⟨form, _, read, rfl, rfl⟩
    exact ⟨rfl, form, (fits form).mp read⟩
  · rintro ⟨rfl, form, begins⟩
    exact ⟨form, rest, (fits form).mpr begins, rfl, rfl⟩

theorem isSome_readKey_iff : (readKey? text property).isSome = true ↔
    ∃ form rest, BeginsWith property.spellings text form rest := by
  rw [readKey?, Option.isSome_map, isSome_readForm_iff]
  exact exists_congr fun form => exists_congr fun rest => beginsWith_forms

theorem exists_readKey_of_beginsWith {form : List Char} (begins : BeginsWith property.spellings text form rest) :
    ∃ longer left, readKey? text property = some (property.key, left) ∧
      BeginsLongest property.spellings text longer left := by
  obtain ⟨⟨key, left⟩, read⟩ := Option.isSome_iff_exists.mp (isSome_readKey_iff.mpr ⟨form, rest, begins⟩)
  obtain ⟨rfl, longer, longest⟩ := readKey_eq_some_iff.mp read
  exact ⟨longer, left, read, longest⟩

/-- The property that has precedence among all is the first with the longest form. -/
theorem exists_precedes_iff : (∃ index property, Precedes (readKey? text) properties index property (key, rest)) ↔
    ∃ index property form, property.key = key ∧ BeginsWithProperty properties text index property form rest := by
  constructor
  · rintro ⟨index, property, here, reads, furthest, first⟩
    obtain ⟨rfl, form, begins⟩ := readKey_eq_some_iff.mp reads
    refine ⟨index, property, form, rfl, here, begins.toBeginsWith, ?_, ?_⟩
    · intro other member form' left fits
      obtain ⟨longer, further, found, begins'⟩ := exists_readKey_of_beginsWith fits
      have least : rest.length ≤ further.length := furthest other member _ found
      exact (begins'.longest form' left fits).trans
        ((begins.toBeginsWith.le_iff begins'.toBeginsWith).mpr least)
    · intro earlier other before there fits
      obtain ⟨longer, further, found, begins'⟩ := exists_readKey_of_beginsWith fits
      have less : rest.length < further.length := first earlier other before there _ found
      have reached := (begins'.toBeginsWith.le_iff fits).mp (begins'.longest form rest fits)
      omega
  · rintro ⟨index, property, form, rfl, here, begins, longest, first⟩
    have member := List.mem_of_getElem? here
    have reads : readKey? text property = some (property.key, rest) :=
      readKey_eq_some_iff.mpr ⟨rfl, form, begins, longest property member⟩
    -- What is read of another property begins with a form of it, which is no longer than this one.
    have furthest : ∀ other ∈ properties, ∀ form' left, BeginsWith other.spellings text form' left →
        rest.length ≤ left.length := fun other member form' left begins' =>
      (begins.le_iff begins').mp (longest other member form' left begins')
    refine ⟨index, property, here, reads, ?_, ?_⟩
    · rintro other member ⟨key, left⟩ found
      obtain ⟨_, form', begins'⟩ := readKey_eq_some_iff.mp found
      exact furthest other member form' left begins'.toBeginsWith
    · rintro earlier other before there ⟨key, left⟩ found
      obtain ⟨_, form', begins'⟩ := readKey_eq_some_iff.mp found
      have least := furthest other (List.mem_of_getElem? there) form' left begins'.toBeginsWith
      refine Nat.lt_of_le_of_ne least fun same => first earlier other before there ?_
      -- Forms that leave equally much of one text are the same.
      obtain ⟨rfl, rfl⟩ := List.append_inj' (begins'.split.symm.trans begins.split) same.symm
      exact begins'.toBeginsWith

theorem readProperty_ofType (kind : Kind) (type : NodeType) (text : List Char) :
    (TypeEntry.ofType kind type).readProperty? text = longest (type.properties.map (readKey? text)) := by
  rw [TypeEntry.readProperty?, TypeEntry.ofType, List.map_map]
  rfl

end Properties

/-- A name is read where the text begins with a spelling of it that no word overruns, and then it is the longest
one. Of the properties of a type it is the first with the longest spelling. -/
theorem longest_names (singular plural : List Char) (kind : Kind) (type : NodeType) (text : List Char) :
    ((readForm? (forms singular plural) text).isSome = true ↔
        ∃ form rest, BeginsWith (spellings singular ++ spellings plural) text form rest) ∧
      (∀ form rest, readForm? (forms singular plural) text = some (form, rest) ↔
        BeginsLongest (spellings singular ++ spellings plural) text form rest) ∧
      (((TypeEntry.ofType kind type).readProperty? text).isSome = true ↔
        ∃ property ∈ type.properties, ∃ form rest, BeginsWith property.spellings text form rest) ∧
      ∀ key rest, (TypeEntry.ofType kind type).readProperty? text = some (key, rest) ↔
        ∃ index property form, property.key = key ∧
          BeginsWithProperty type.properties text index property form rest := by
  refine ⟨?_, fun form rest => ?_, ?_, fun key rest => ?_⟩
  · rw [isSome_readForm_iff]
    exact exists_congr fun form => exists_congr fun rest => beginsWith_forms
  · rw [readForm_eq_some_iff (longestFirst_forms singular plural), beginsLongest_forms]
  · rw [readProperty_ofType, exists_longest_iff]
    exact exists_congr fun property => and_congr_right fun _ => isSome_readKey_iff
  · rw [readProperty_ofType, longest_map_eq_some, exists_precedes_iff]

/-- A word overruns the longer name, so the shorter one is read. -/
example : readForm? (forms "post office".toList "post".toList) "post officers".toList =
    some ("post".toList, " officers".toList) := by
  decide +kernel

end GraphQuery
