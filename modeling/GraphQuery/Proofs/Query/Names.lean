import GraphQuery.Proofs.BareNames
import GraphQuery.Proofs.Grammar.Vocabulary
import GraphQuery.Proofs.Query.Renormalization

/-! Names in queries.

Every form of a declared name has single spaces between its words, whatever it is written like. So nothing is
dropped of it, and nothing changes, wherever it stands in a query: no matter which quotes are around it or inside
it, a space of it stays as part of a literal or as the whole gap between two words. -/

set_option autoImplicit false

namespace GraphQuery

open Text Grammar

namespace Query.Normalized

/-- The text is found at this index, and its characters were typed from this place on. -/
structure StandsAt (normalized : Normalized) (index place : Nat) (text : List Char) : Prop where
  here : text <+: normalized.text.drop index
  columns : ∀ offset, offset < text.length → normalized.column (index + offset) = place + offset + 1

section Around
variable {query before after word : List Char} {place : Nat}

/-- A single space between two words is kept, whether it is in a literal or not. -/
theorem keptAt_space (here : query[place]? = some ' ') (within : ¬WordStart query place)
    (next : VisibleAt query (place + 1)) : keptAt query place = some ⟨' ', place⟩ := by
  by_cases loose : Loose query place
  · apply keptAt_of_opensGap
    exact ⟨loose, within, place + 1, Nat.lt_succ_self place, next⟩
  · exact keptAt_of_not_loose here loose

theorem filterMap_keptAt_of_singleSpaced {within : Bool} (spaced : SingleSpaced within word)
    (split : query.drop place = word ++ after) (inside : within = true → ¬WordStart query place) :
    (List.range' place word.length).filterMap (keptAt query) = numbered place word := by
  -- On the words; inside of one, something visible stands right before.
  induction spaced generalizing place with
  | nil => rfl
  | gap spaced ih =>
    obtain ⟨c, more, rfl, visible⟩ := spaced.exists_eq_cons
    obtain ⟨here, behind⟩ := getElem?_of_drop split
    have next : VisibleAt query (place + 1) := ⟨c, (getElem?_of_drop behind).1, visible⟩
    have later := ih behind (fun impossible => by cases impossible)
    rw [List.length_cons, List.range'_succ, List.filterMap_cons_some (keptAt_space here (inside rfl) next),
      later]
    rfl
  | @char _ c _ visible spaced ih =>
    obtain ⟨here, behind⟩ := getElem?_of_drop split
    have later := ih behind (fun _ => not_wordStart_succ ⟨c, here, visible⟩)
    rw [List.length_cons, List.range'_succ, List.filterMap_cons_some (keptAt_of_visible here visible), later]
    rfl

theorem exists_placed_around (spaced : SingleSpaced false word) (before after : List Char) :
    ∃ earlier later, (ofQuery (before ++ word ++ after)).placed =
      earlier ++ numbered before.length word ++ later := by
  have places : List.range (before ++ word ++ after).length = List.range before.length ++
      List.range' before.length word.length ++
        List.range' (before.length + word.length) after.length := by
    rw [List.length_append, List.length_append, List.range_eq_range', List.range_eq_range',
      ← List.range'_append_1, ← List.range'_append_1, Nat.zero_add, Nat.zero_add]
  have split : (before ++ word ++ after).drop before.length = word ++ after := by
    rw [List.append_assoc, List.drop_left]
  rw [placed_eq_filterMap, places, List.filterMap_append, List.filterMap_append,
    filterMap_keptAt_of_singleSpaced spaced split (fun impossible => by cases impossible)]
  exact ⟨_, _, rfl⟩

theorem exists_standsAt (spaced : SingleSpaced false word) (before after : List Char) :
    ∃ index, StandsAt (ofQuery (before ++ word ++ after)) index before.length word := by
  obtain ⟨earlier, later, placed⟩ := exists_placed_around spaced before after
  refine ⟨earlier.length, ⟨?_, fun offset bound => ?_⟩⟩
  · rw [text, placed, List.map_append, List.map_append, map_char_numbered, List.append_assoc,
      List.drop_left' (List.length_map _)]
    exact List.prefix_append _ _
  · have length : (numbered before.length word).length = word.length := by
      rw [← List.length_map (·.char), map_char_numbered]
    have found : (ofQuery (before ++ word ++ after)).placed[earlier.length + offset]? =
        some ⟨word[offset], before.length + offset⟩ := by
      rw [placed, List.append_assoc, List.getElem?_append_right (Nat.le_add_right _ _),
        Nat.add_sub_cancel_left, List.getElem?_append_left (length ▸ bound), getElem?_numbered,
        List.getElem?_eq_getElem bound]
      rfl
    simp only [column, found]

end Around

end Query.Normalized

namespace Schema

open Query.Normalized

variable {schema : Schema} {form : List Char}

theorem singleSpaced_of_mem_allForms (valid : schema.validate = .ok ())
    (listed : form ∈ (Grammar.ofTypes schema).allForms) : SingleSpaced false form := by
  have spaced : ∀ kind, ∀ entry ∈ (Grammar.ofTypes schema).entries kind,
      form ∈ entry.forms ++ entry.keyForms → SingleSpaced false form := by
    intro kind entry member found
    rw [entries_ofTypes] at member
    obtain ⟨type, declared, rfl⟩ := List.mem_map.mp member
    rcases List.mem_append.mp found with name | key
    · exact singleSpaced_of_mem_typeForms kind valid declared name
    · obtain ⟨property, inside, spelled⟩ := List.mem_flatMap.mp key
      exact singleSpaced_of_mem_keyForms kind valid declared inside spelled
  obtain ⟨entry, member, found⟩ := List.mem_flatMap.mp listed
  rcases List.mem_append.mp member with node | relationship
  · exact spaced .node entry node found
  · exact spaced .relationship entry relationship found

/-- A form of a valid schema is some text that is normalized already. In every query it is found as it was
typed, where it was typed. -/
theorem forms_stand (valid : schema.validate = .ok ()) (listed : form ∈ (Grammar.ofTypes schema).allForms) :
    form ≠ [] ∧ (ofQuery form).text = form ∧ ∀ before after,
      ∃ index, StandsAt (ofQuery (before ++ form ++ after)) index before.length form := by
  have spaced := singleSpaced_of_mem_allForms valid listed
  obtain ⟨c, rest, begins, _⟩ := spaced.exists_eq_cons
  refine ⟨begins ▸ List.cons_ne_nil c rest, text_of_singleSpaced spaced, fun before after => ?_⟩
  exact exists_standsAt spaced before after

/-- A type whose name opens a literal, and a key that closes one. -/
def bandSchema : Schema where
  nodeTypes := [{ id := 1, name := "rock 'n roll band", properties := [⟨"\"best\" hit"⟩] }]

/-- A literal that is opened before the name is closed inside of it. -/
theorem forms_stand_band :
    bandSchema.validate = .ok () ∧
      "ROCK 'N ROLL BANDS".toList ∈ (Grammar.ofTypes bandSchema).allForms ∧
      "ROCK 'N ROLL BANDS".toList ≠ [] ∧
      (ofQuery "ROCK 'N ROLL BANDS".toList).text = "ROCK 'N ROLL BANDS".toList ∧
      ∃ index, StandsAt (ofQuery ("the  'best  ".toList ++ "ROCK 'N ROLL BANDS".toList ++
        "  with  \"".toList)) index "the  'best  ".toList.length "ROCK 'N ROLL BANDS".toList := by
  have valid : bandSchema.validate = .ok () := Parser.eq_ok_of_toOption (by decide +kernel)
  have listed : "ROCK 'N ROLL BANDS".toList ∈ (Grammar.ofTypes bandSchema).allForms := by decide +kernel
  obtain ⟨nonempty, itself, around⟩ := forms_stand valid listed
  exact ⟨valid, listed, nonempty, itself, around _ _⟩

end Schema
end GraphQuery
