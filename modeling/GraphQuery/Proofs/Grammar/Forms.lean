import GraphQuery.Proofs.Grammar.CanonicalForms
import GraphQuery.Proofs.Text.Spelling

/-! The forms of a name.

Longer forms come first, so each form is read as itself: one that is tried before it would have to be its
beginning, but is no shorter. In a valid schema all forms are words with single spaces between them. -/

set_option autoImplicit false

namespace GraphQuery

open Text Schema

namespace Grammar
variable {form singular plural : List Char} {forms : List (List Char)}

def LongestFirst (forms : List (List Char)) : Prop :=
  forms.Pairwise fun form later => later.length ≤ form.length

theorem longestFirst_forms (singular plural : List Char) : LongestFirst (Grammar.forms singular plural) :=
  (pairwise_ahead_forms singular plural).imp fun ahead => ahead.length_le

theorem readForm_self (sorted : LongestFirst forms) (member : form ∈ forms) :
    readForm? forms form = some (form, []) := by
  have itself : ((form.isPrefixOf? form).bind fun rest =>
      if wordEnds form rest then some (form, rest) else none) = some (form, []) := by
    rw [List.isPrefixOf?_eq_some_iff_append_eq.mpr (List.append_nil form)]
    simp [wordEnds]
  induction forms with
  | nil => cases member
  | cons first rest ih =>
    obtain ⟨longest, later⟩ := List.pairwise_cons.mp sorted
    rw [readForm?, List.findSome?_cons]
    -- The first form is the longest, so this one begins with it only if it is it.
    by_cases begins : first <+: form
    · have long : form.length ≤ first.length := by
        obtain rfl | member := List.mem_cons.mp member
        · exact Nat.le_refl _
        · exact longest form member
      obtain rfl := begins.eq_of_length_le long
      rw [itself]
    · have other : first.isPrefixOf? form = none := by
        rw [Option.eq_none_iff_forall_not_mem]
        exact fun rest found => begins ⟨rest, List.isPrefixOf?_eq_some_iff_append_eq.mp found⟩
      obtain rfl | member := List.mem_cons.mp member
      · exact absurd List.prefix_rfl begins
      · rw [other]
        exact ih later member

theorem singleSpaced_of_mem_spellings {word : List Char} (spaced : SingleSpaced false word)
    (member : form ∈ spellings word) : SingleSpaced false form := by
  simp only [spellings, List.mem_cons, List.not_mem_nil, or_false] at member
  obtain rfl | rfl | rfl | rfl := member
  · exact spaced
  · exact spaced.lowercase
  · exact spaced.uppercase
  · exact spaced.capitalize

theorem singleSpaced_of_mem_forms (spaced : SingleSpaced false singular)
    (spaced' : SingleSpaced false plural) (member : form ∈ Grammar.forms singular plural) :
    SingleSpaced false form := by
  obtain member | member := mem_forms.mp member
  · exact singleSpaced_of_mem_spellings spaced member
  · exact singleSpaced_of_mem_spellings spaced' member

end Grammar

/-! Names and keys of valid schemas. -/

namespace Schema
variable {schema : Schema} (kind : Kind) {type : NodeType}

theorem singleSpaced_of_tidy {word : String} (tidy : Tidy word) : SingleSpaced false word.toList :=
  tidy.2 ▸ singleSpaced_collapse tidy.1

/-- A plural that is not declared has one more letter. -/
theorem singleSpaced_append_s {word : String} (tidy : Tidy word) :
    SingleSpaced false (word ++ "s").toList := by
  rw [String.toList_append]
  exact (singleSpaced_of_tidy tidy).concat (by decide)

theorem checkWords_of_validate (valid : schema.validate = .ok ()) (declared : type ∈ schema.types kind) :
    checkWords kind type = .ok () := by
  obtain ⟨nodes, relationships⟩ := validate_eq_ok.mp valid
  cases kind with
  | node => exact (checkNodeTypes_eq_ok.mp nodes).2 type declared
  | relationship =>
    obtain ⟨type, member, rfl⟩ := List.mem_map.mp declared
    exact ((checkRelationshipTypes_eq_ok.mp relationships).2 type member).1

theorem singleSpaced_of_mem_typeForms (valid : schema.validate = .ok ())
    (declared : type ∈ schema.types kind) {form : List Char}
    (member : form ∈ (Grammar.TypeEntry.ofType kind type).forms) : SingleSpaced false form := by
  obtain ⟨name, plural, _⟩ := checkWords_eq_ok.mp (checkWords_of_validate kind valid declared)
  refine Grammar.singleSpaced_of_mem_forms (singleSpaced_of_tidy name) ?_ member
  unfold NodeType.plural
  cases given : type.pluralName with
  | none => exact singleSpaced_append_s name
  | some word => exact singleSpaced_of_tidy (plural word given)

theorem singleSpaced_of_mem_keyForms (valid : schema.validate = .ok ())
    (declared : type ∈ schema.types kind) {property : Grammar.PropertyEntry}
    (listed : property ∈ (Grammar.TypeEntry.ofType kind type).properties) {form : List Char}
    (member : form ∈ property.forms) : SingleSpaced false form := by
  obtain ⟨_, _, keys, _⟩ := checkWords_eq_ok.mp (checkWords_of_validate kind valid declared)
  obtain ⟨key, inside, rfl⟩ := List.mem_map.mp listed
  exact Grammar.singleSpaced_of_mem_forms (singleSpaced_of_tidy (keys key inside))
    (singleSpaced_append_s (keys key inside)) member

end Schema
end GraphQuery
