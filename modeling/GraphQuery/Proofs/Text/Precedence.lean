import GraphQuery.Proofs.Query.Readings
import Mathlib.Data.List.Induction

/-! Precedence among several readers of one text.

All of them are tried. The one that leaves the least text has precedence, and among those that leave equally
little the first. So exactly one reader has it, as soon as any of them reads. -/

set_option autoImplicit false

namespace GraphQuery.Text

variable {ι α : Type} {read : ι → Option (Reading α)} {readers : List ι} {reader : ι} {index : Nat}
  {reading : Reading α}

/-- The reader at `index` reads at least as far as all others, and further than all before it. -/
structure Precedes (read : ι → Option (Reading α)) (readers : List ι) (index : Nat) (reader : ι)
    (reading : Reading α) : Prop where
  here : readers[index]? = some reader
  reads : read reader = some reading
  furthest : ∀ other ∈ readers, ∀ found, read other = some found → reading.2.length ≤ found.2.length
  first : ∀ earlier other, earlier < index → readers[earlier]? = some other →
    ∀ found, read other = some found → reading.2.length < found.2.length

namespace Precedes

theorem mem (precedes : Precedes read readers index reader reading) : reader ∈ readers :=
  List.mem_of_getElem? precedes.here

theorem unique {index' : Nat} {reader' : ι} {reading' : Reading α}
    (precedes : Precedes read readers index reader reading)
    (precedes' : Precedes read readers index' reader' reading') :
    index = index' ∧ reader = reader' ∧ reading = reading' := by
  have least := precedes.furthest reader' precedes'.mem reading' precedes'.reads
  have least' := precedes'.furthest reader precedes.mem reading precedes.reads
  rcases Nat.lt_trichotomy index index' with before | rfl | after
  · have := precedes'.first index reader before precedes.here reading precedes.reads
    omega
  · obtain rfl := Option.some.inj (precedes.here.symm.trans precedes'.here)
    exact ⟨rfl, rfl, Option.some.inj (precedes.reads.symm.trans precedes'.reads)⟩
  · have := precedes.first index' reader' after precedes'.here reading' precedes'.reads
    omega

/-- One more reader at the end takes precedence only if it reads further. -/
theorem concat {last : ι} (precedes : Precedes read readers index reader reading)
    (shorter : ∀ found, read last = some found → reading.2.length ≤ found.2.length) :
    Precedes read (readers ++ [last]) index reader reading where
  here := by
    rw [List.getElem?_append_left (List.getElem?_eq_some_iff.mp precedes.here).1]
    exact precedes.here
  reads := precedes.reads
  furthest other member found accepted := by
    rcases List.mem_append.mp member with member | member
    · exact precedes.furthest other member found accepted
    · obtain rfl := List.mem_singleton.mp member
      exact shorter found accepted
  first earlier other before there found accepted := by
    have inside := (List.getElem?_eq_some_iff.mp precedes.here).1
    rw [List.getElem?_append_left (by omega)] at there
    exact precedes.first earlier other before there found accepted

theorem of_last {last : ι} (accepted : read last = some reading)
    (longer : ∀ other ∈ readers, ∀ found, read other = some found →
      reading.2.length < found.2.length) :
    Precedes read (readers ++ [last]) readers.length last reading where
  here := by simp
  reads := accepted
  furthest other member found accepted' := by
    rcases List.mem_append.mp member with member | member
    · exact Nat.le_of_lt (longer other member found accepted')
    · obtain rfl := List.mem_singleton.mp member
      rw [accepted] at accepted'
      exact Option.some.inj accepted' ▸ Nat.le_refl _
  first earlier other before there found accepted' := by
    rw [List.getElem?_append_left before] at there
    exact longer other (List.mem_of_getElem? there) found accepted'

end Precedes

theorem longest_concat (readings : List (Option (Reading α))) (last : Option (Reading α)) :
    longest (readings ++ [last]) = further (longest readings) last := by
  rw [longest, List.foldl_append]
  rfl

theorem exists_longest_iff : (longest (readers.map read)).isSome = true ↔
    ∃ reader ∈ readers, (read reader).isSome = true := by
  constructor
  · intro found
    obtain ⟨reading, selected⟩ := Option.isSome_iff_exists.mp found
    obtain ⟨reader, member, accepted⟩ := List.mem_map.mp (mem_of_longest selected)
    exact ⟨reader, member, Option.isSome_of_eq_some accepted⟩
  · rintro ⟨reader, member, accepts⟩
    obtain ⟨reading, accepted⟩ := Option.isSome_iff_exists.mp accepts
    exact isSome_longest (List.mem_map.mpr ⟨reader, member, accepted⟩)

theorem exists_precedes_of_longest (selected : longest (readers.map read) = some reading) :
    ∃ index reader, Precedes read readers index reader reading := by
  -- The last reader is taken off, since the loop compares it with the best of those before.
  induction readers using List.reverseRecOn generalizing reading with
  | nil => cases selected
  | append_singleton readers last ih =>
    rw [List.map_append, List.map_singleton, longest_concat] at selected
    cases best : longest (readers.map read) with
    | none =>
      -- None of the others reads, so the last one has precedence whatever it leaves.
      have accepted : read last = some reading := by
        rw [best] at selected
        exact selected
      refine ⟨readers.length, last, .of_last accepted fun other member found accepted' => ?_⟩
      have some := isSome_longest (List.mem_map.mpr ⟨other, member, accepted'⟩)
      rw [best] at some
      cases some
    | some kept =>
      obtain ⟨index, reader, precedes⟩ := ih best
      cases accepted : read last with
      | none =>
        rw [best, accepted] at selected
        obtain rfl := Option.some.inj selected
        exact ⟨index, reader, precedes.concat fun found accepted' => by simp [accepted] at accepted'⟩
      | some found =>
        rw [best, accepted, further] at selected
        split at selected
        · next further =>
          -- It reads further than the best, which read at least as far as the others.
          obtain rfl := Option.some.inj selected
          refine ⟨readers.length, last, .of_last accepted fun other member found' accepted' => ?_⟩
          exact Nat.lt_of_lt_of_le further (precedes.furthest other member found' accepted')
        · next nearer =>
          obtain rfl := Option.some.inj selected
          refine ⟨index, reader, precedes.concat fun found' accepted' => ?_⟩
          rw [accepted] at accepted'
          obtain rfl := Option.some.inj accepted'
          exact Nat.not_lt.mp nearer

theorem longest_map_eq_some : longest (readers.map read) = some reading ↔
    ∃ index reader, Precedes read readers index reader reading := by
  refine ⟨exists_precedes_of_longest, fun ⟨index, reader, precedes⟩ => ?_⟩
  obtain ⟨other, selected⟩ := Option.isSome_iff_exists.mp
    (isSome_longest (List.mem_map.mpr ⟨reader, precedes.mem, precedes.reads⟩))
  obtain ⟨_, _, precedes'⟩ := exists_precedes_of_longest selected
  rw [selected, (precedes.unique precedes').2.2]

/-- What each reader makes of its reading does not matter for the precedence. -/
theorem precedes_map {β : Type} (change : ι → α → β) {value : β} {rest : List Char} :
    Precedes (fun reader => (read reader).map fun found => (change reader found.1, found.2)) readers index
        reader (value, rest) ↔
      ∃ inner, value = change reader inner ∧ Precedes read readers index reader (inner, rest) := by
  constructor
  · rintro ⟨here, reads, furthest, first⟩
    obtain ⟨⟨inner, left⟩, accepted, same⟩ := Option.map_eq_some_iff.mp reads
    obtain ⟨rfl, rfl⟩ := Prod.mk.inj same
    refine ⟨inner, rfl, here, accepted, fun other member found accepted' => ?_,
      fun earlier other before there found accepted' => ?_⟩
    · exact furthest other member _ (Option.map_eq_some_iff.mpr ⟨found, accepted', rfl⟩)
    · exact first earlier other before there _ (Option.map_eq_some_iff.mpr ⟨found, accepted', rfl⟩)
  · rintro ⟨inner, rfl, here, accepted, furthest, first⟩
    refine ⟨here, Option.map_eq_some_iff.mpr ⟨_, accepted, rfl⟩, fun other member found reads => ?_,
      fun earlier other before there found reads => ?_⟩
    · obtain ⟨found', accepted', rfl⟩ := Option.map_eq_some_iff.mp reads
      exact furthest other member found' accepted'
    · obtain ⟨found', accepted', rfl⟩ := Option.map_eq_some_iff.mp reads
      exact first earlier other before there found' accepted'

end GraphQuery.Text
