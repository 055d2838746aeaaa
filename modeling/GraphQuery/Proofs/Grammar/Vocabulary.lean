import GraphQuery.Grammar.Basic
import GraphQuery.Grammar.Words
import GraphQuery.Proofs.Grammar.Assembly
import GraphQuery.Proofs.Text.Letters
import Mathlib.Data.List.Pairwise

/-! Vocabularies in which every word has one meaning.

The fixed words of the query language have no `k`, so that in any letter case they consist of ASCII
letters. So do the forms of a name that does. -/

set_option autoImplicit false

namespace GraphQuery.Grammar

open Text

def fixedWords : List String :=
  connectives ++ lookupPhrases.flatMap (·.1) ++ conditionOpener :: relationshipOpeners ++ articles ++
    projectionJoiners

example : fixedWords.eraseDups =
    ["and", "or", "that", "starts", "with", "start", "ends", "end", "greater", "than", "lower", "less",
      "equal", "to", "who", "an", "a", "the", "of", "from"] := by
  decide +kernel

theorem plain_of_mem_fixedWords {word : String} (fixed : word ∈ fixedWords) :
    word.toList ≠ [] ∧ ∀ c ∈ word.toList, Plain c := by
  have table : ∀ word ∈ fixedWords,
      word.toList ≠ [] ∧ (word.toList.all fun c => decide (Plain c)) = true := by
    decide +kernel
  simpa using table word fixed

theorem lettered_of_equalFold {word : String} (fixed : word ∈ fixedWords) {found : List Char}
    (same : equalFold found word.toList = true) : Lettered found := by
  obtain ⟨nonempty, plain⟩ := plain_of_mem_fixedWords fixed
  refine ⟨?_, isAlpha_of_equalFold plain same⟩
  rintro rfl
  exact nonempty (List.length_eq_zero_iff.mp (length_eq_of_equalFold same).symm)

/-- No text is two fixed words, whatever its letter case. -/
theorem fixed_eq_of_equalFold {first second : String} (fixed : first ∈ fixedWords)
    (fixed' : second ∈ fixedWords) {found : List Char}
    (same : equalFold found first.toList = true) (same' : equalFold found second.toList = true) :
    first = second :=
  String.toList_inj.mp <| eq_of_equalFold (plain_of_mem_fixedWords fixed).2
    (plain_of_mem_fixedWords fixed').2 same same'

/-! Forms of lettered words. -/

theorem lettered_of_mem_spellings {word form : List Char} (lettered : Lettered word)
    (member : form ∈ spellings word) : Lettered form := by
  have letters := lettered.2
  simp only [spellings, List.mem_cons, List.not_mem_nil, or_false] at member
  -- As it is written, in lower case, in upper case, and capitalized.
  rcases member with rfl | rfl | rfl | rfl
  · exact lettered
  · rw [lowercase, lowercaseAfter_of_letters letters]
    exact lettered.map isAlpha_toLower
  · rw [uppercase_of_letters letters]
    exact lettered.map isAlpha_toUpper
  · cases word with
    | nil => exact absurd rfl lettered.1
    | cons first rest =>
      have tail : ∀ c ∈ rest, c.isAlpha = true := fun c member =>
        letters c (List.mem_cons_of_mem first member)
      rw [capitalize, upperChar_of_isAlpha (letters first List.mem_cons_self), flatMap_lowerChar tail]
      refine ⟨List.cons_ne_nil _ _, fun c member => ?_⟩
      rcases List.mem_cons.mp member with rfl | member
      · exact isAlpha_toUpper (letters first List.mem_cons_self)
      · obtain ⟨original, inside, rfl⟩ := List.mem_map.mp member
        exact isAlpha_toLower (tail original inside)

theorem lettered_of_mem_forms {singular plural form : List Char} (name : Lettered singular)
    (names : Lettered plural) (member : form ∈ forms singular plural) : Lettered form := by
  rcases mem_forms.mp member with member | member
  · exact lettered_of_mem_spellings name member
  · exact lettered_of_mem_spellings names member

/-! Unambiguous vocabularies. -/

def TypeEntry.keyForms (entry : TypeEntry) : List (List Char) :=
  entry.properties.flatMap (·.forms)

def allForms (grammar : Grammar) : List (List Char) :=
  (grammar.nodeEntries ++ grammar.relationshipEntries).flatMap fun entry =>
    entry.forms ++ entry.keyForms

def Apart (first second : List (List Char)) : Prop :=
  ∀ form ∈ first, form ∉ second

instance (first second : List (List Char)) : Decidable (Apart first second) :=
  inferInstanceAs (Decidable (∀ form ∈ first, form ∉ second))

/-- Every form tells what it is a form of. A node type and a relationship type may share one, and so
may properties of different types. -/
structure Distinct (grammar : Grammar) : Prop where
  free : ∀ form ∈ grammar.allForms, ∀ word ∈ fixedWords, equalFold form word.toList = false
  nodes : grammar.nodeEntries.Pairwise fun first second => Apart first.forms second.forms
  relationships :
    grammar.relationshipEntries.Pairwise fun first second => Apart first.forms second.forms
  keys : ∀ entry ∈ grammar.nodeEntries ++ grammar.relationshipEntries,
    entry.properties.Pairwise fun first second => Apart first.forms second.forms
  names : ∀ named ∈ grammar.nodeEntries, ∀ owner ∈ grammar.nodeEntries,
    Apart named.forms owner.keyForms

structure Clear (grammar : Grammar) : Prop extends Distinct grammar where
  lettered : ∀ form ∈ grammar.allForms, Lettered form

theorem eq_of_pairwise_apart {α : Type} {f : α → List (List Char)} {values : List α}
    (distinct : values.Pairwise fun first second => Apart (f first) (f second))
    {first second : α} (member : first ∈ values) (member' : second ∈ values) {form : List Char}
    (found : form ∈ f first) (found' : form ∈ f second) : first = second := by
  have : Std.Symm fun first second => Apart (f first) (f second) :=
    ⟨fun _ _ apart form inside outside => apart form outside inside⟩
  by_contra differ
  exact distinct.forall member member' differ form found found'

namespace Clear

variable {grammar : Grammar} {entry other : TypeEntry} {form : List Char}

theorem node_lettered (clear : Clear grammar) (member : entry ∈ grammar.nodeEntries)
    (found : form ∈ entry.forms ++ entry.keyForms) : Lettered form :=
  clear.lettered form (List.mem_flatMap.mpr ⟨entry, List.mem_append_left _ member, found⟩)

theorem relationship_lettered (clear : Clear grammar) (member : entry ∈ grammar.relationshipEntries)
    (found : form ∈ entry.forms) : Lettered form :=
  clear.lettered form (List.mem_flatMap.mpr
    ⟨entry, List.mem_append_right _ member, List.mem_append_left _ found⟩)

theorem node_free (clear : Clear grammar) (member : entry ∈ grammar.nodeEntries)
    (found : form ∈ entry.forms ++ entry.keyForms) {word : String} (fixed : word ∈ fixedWords) :
    equalFold form word.toList = false :=
  clear.free form (List.mem_flatMap.mpr ⟨entry, List.mem_append_left _ member, found⟩) word fixed

theorem relationship_free (clear : Clear grammar) (member : entry ∈ grammar.relationshipEntries)
    (found : form ∈ entry.forms) {word : String} (fixed : word ∈ fixedWords) :
    equalFold form word.toList = false :=
  clear.free form (List.mem_flatMap.mpr
    ⟨entry, List.mem_append_right _ member, List.mem_append_left _ found⟩) word fixed

end Clear
end GraphQuery.Grammar

namespace GraphQuery

open Text Grammar

/-- The words that a type declares, with the plural that it leaves to the default. -/
def NodeType.words (type : NodeType) : List String :=
  type.name :: type.plural :: type.properties.map (·.key)

namespace Schema

def words (schema : Schema) : List String :=
  (schema.nodeTypes ++ schema.relationshipTypes.map (·.toNodeType)).flatMap (·.words)

/-- A schema that declares words of ASCII letters only, each in one meaning. -/
structure Unambiguous (schema : Schema) : Prop where
  lettered : ∀ word ∈ schema.words, Lettered word.toList
  distinct : (Grammar.ofTypes schema).Distinct

theorem lettered_of_mem_words {type : NodeType}
    (lettered : ∀ word ∈ type.words, Lettered word.toList) {kind : Kind} {form : List Char}
    (member : form ∈ (TypeEntry.ofType kind type).forms ++ (TypeEntry.ofType kind type).keyForms) :
    Lettered form := by
  rcases List.mem_append.mp member with name | key
  · exact lettered_of_mem_forms (lettered _ (by simp [NodeType.words]))
      (lettered _ (by simp [NodeType.words])) name
  · simp only [TypeEntry.keyForms, TypeEntry.ofType, List.flatMap_map, List.mem_flatMap] at key
    obtain ⟨property, declared, found⟩ := key
    -- The plural of a key is the key and an `s`.
    have letters : Lettered property.key.toList :=
      lettered _ (by simpa [NodeType.words] using .inr (.inr ⟨property, declared, rfl⟩))
    refine lettered_of_mem_forms letters ?_ found
    rw [String.toList_append]
    refine ⟨by simp, fun c inside => ?_⟩
    rcases List.mem_append.mp inside with inside | inside
    · exact letters.2 c inside
    · have last : c = 's' := by simpa using inside
      subst last
      decide

theorem Unambiguous.clear {schema : Schema} (unambiguous : schema.Unambiguous) :
    (Grammar.ofTypes schema).Clear where
  toDistinct := unambiguous.distinct
  lettered form member := by
    simp only [Grammar.allForms, Grammar.ofTypes, List.mem_flatMap, List.mem_append,
      List.mem_map] at member
    obtain ⟨_, ⟨type, declared, rfl⟩ | ⟨type, declared, rfl⟩, found⟩ := member
    · exact lettered_of_mem_words (fun word said => unambiguous.lettered word
        (List.mem_flatMap.mpr ⟨type, List.mem_append_left _ declared, said⟩))
        (List.mem_append.mpr found)
    · exact lettered_of_mem_words (fun word said => unambiguous.lettered word
        (List.mem_flatMap.mpr ⟨type.toNodeType, List.mem_append_right _
          (List.mem_map.mpr ⟨type, declared, rfl⟩), said⟩)) (List.mem_append.mpr found)

end Schema
end GraphQuery
