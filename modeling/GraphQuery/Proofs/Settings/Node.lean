import GraphQuery.Settings.Basic
import Mathlib.Data.List.Basic
import Mathlib.Data.List.Nodup

/-! What is found in trees of settings that were laid over one another.

A key is found where it was put last. That takes tables in which no key comes twice, and whatever is read
from JSON or laid over something is made of such tables. -/

set_option autoImplicit false

namespace GraphQuery.Settings.Node

/-! Entries that are put into a table. -/

theorem lookup_cons_eq (key name : String) (value : Node) (rest : List (String × Node)) :
    ((name, value) :: rest).lookup key = if key = name then some value else rest.lookup key := by
  by_cases same : key = name
  · simp [same]
  · simp [List.lookup_cons, same, beq_false_of_ne same]

theorem lookup_of_fresh {key : String} {entries : List (String × Node)}
    (fresh : key ∉ entries.map (·.1)) : entries.lookup key = none := by
  refine List.lookup_eq_none_iff.mpr fun entry member => bne_iff_ne.mpr ?_
  rintro rfl
  exact fresh (List.mem_map_of_mem member)

theorem lookup_put (key other : String) (value : Node) (entries : List (String × Node)) :
    (put key value entries).lookup other = if other = key then some value else entries.lookup other := by
  induction entries with
  | nil => exact lookup_cons_eq other key value []
  | cons entry rest ih =>
    obtain ⟨name, old⟩ := entry
    by_cases here : name = key
    · subst here
      by_cases same : other = name <;> simp [put, lookup_cons_eq, same]
    · simp only [put, if_neg here, lookup_cons_eq, ih]
      by_cases same : other = name
      · simp [same, here]
      · simp [same]

theorem keys_put (key : String) (value : Node) (entries : List (String × Node)) :
    (put key value entries).map (·.1) =
      if key ∈ entries.map (·.1) then entries.map (·.1) else entries.map (·.1) ++ [key] := by
  induction entries with
  | nil => simp [put]
  | cons entry rest ih =>
    by_cases here : entry.1 = key
    · simp [put, here]
    · have other : ¬key = entry.1 := fun same => here same.symm
      simp only [put, if_neg here, List.map_cons, ih, List.mem_cons, other, false_or]
      split <;> simp

theorem nodup_put {key : String} {value : Node} {entries : List (String × Node)}
    (distinct : (entries.map (·.1)).Nodup) : ((put key value entries).map (·.1)).Nodup := by
  rw [keys_put]
  split
  · exact distinct
  · next fresh =>
    refine List.nodup_append.mpr ⟨distinct, List.nodup_singleton key, fun name member other same => ?_⟩
    rw [List.mem_singleton.mp same]
    rintro rfl
    exact fresh member

theorem mem_put {key : String} {value : Node} {entries : List (String × Node)} {entry : String × Node}
    (member : entry ∈ put key value entries) : entry = (key, value) ∨ entry ∈ entries := by
  induction entries with
  | nil => exact .inl (List.mem_singleton.mp member)
  | cons first rest ih =>
    unfold put at member
    split at member
    · exact (List.mem_cons.mp member).imp_right (List.mem_cons_of_mem first)
    · rcases List.mem_cons.mp member with rfl | later
      · exact .inr List.mem_cons_self
      · exact (ih later).imp_right (List.mem_cons_of_mem first)

theorem find_put (key other : String) (value : Node) (entries : List (String × Node)) :
    find other (put key value entries) = if other = key then value else find other entries := by
  unfold find
  rw [lookup_put]
  split <;> rfl

/-! Tables laid over one another. -/

/-- What is above counts wherever it says something, with what is below under it. -/
theorem lookup_overlayEntries {below above : List (String × Node)}
    (distinct : (above.map (·.1)).Nodup) (key : String) :
    (overlayEntries below above).lookup key =
      ((above.lookup key).map (find key below).overlay).or (below.lookup key) := by
  induction above generalizing below with
  | nil => simp [overlayEntries]
  | cons entry rest ih =>
    obtain ⟨name, value⟩ := entry
    obtain ⟨fresh, distinct⟩ := List.nodup_cons.mp distinct
    rw [overlayEntries, ih distinct, lookup_put, find_put, lookup_cons_eq]
    by_cases same : key = name
    · subst same
      simp [lookup_of_fresh fresh]
    · simp [same]

theorem toText?_overlay (below value : Node) : (below.overlay value).toText? = value.toText? := by
  cases value <;> simp [overlay, toText?]

theorem toNat?_overlay (below value : Node) : (below.overlay value).toNat? = value.toNat? := by
  cases value <;> simp [overlay, toNat?]

/-! Trees without repeated keys. -/

/-- No key comes twice in a table, nor in the tables among its values. -/
inductive Distinct : Node → Prop where
  | table {entries : List (String × Node)} : (entries.map (·.1)).Nodup →
      (∀ entry ∈ entries, entry.2.Distinct) → Distinct (.table entries)
  | flat {node : Node} : (∀ entries, node ≠ .table entries) → Distinct node

theorem distinct_nothing : Distinct .nothing :=
  .flat nofun

theorem distinct_empty : Distinct (.table []) :=
  .table List.nodup_nil (by simp)

theorem Distinct.keys {entries : List (String × Node)} (distinct : Distinct (.table entries)) :
    (entries.map (·.1)).Nodup := by
  cases distinct with
  | table keys _ => exact keys
  | flat other => exact absurd rfl (other entries)

theorem Distinct.values {entries : List (String × Node)} (distinct : Distinct (.table entries)) :
    ∀ entry ∈ entries, entry.2.Distinct := by
  cases distinct with
  | table _ values => exact values
  | flat other => exact absurd rfl (other entries)

theorem Distinct.entries {node : Node} (distinct : node.Distinct) : Distinct (.table node.entries) := by
  cases node with
  | table => exact distinct
  | _ => exact distinct_empty

theorem Distinct.put {entries : List (String × Node)} {value : Node}
    (distinct : Distinct (.table entries)) (new : value.Distinct) (key : String) :
    Distinct (.table (put key value entries)) := by
  refine .table (nodup_put distinct.keys) fun entry member => ?_
  rcases mem_put member with rfl | old
  · exact new
  · exact distinct.values entry old

theorem Distinct.find {entries : List (String × Node)} (distinct : Distinct (.table entries))
    (key : String) : (find key entries).Distinct := by
  unfold Node.find
  cases found : entries.lookup key with
  | none => exact distinct_nothing
  | some value =>
    obtain ⟨before, after, rfl, _⟩ := List.lookup_eq_some_iff.mp found
    exact distinct.values (key, value) (List.mem_append_right before List.mem_cons_self)

mutual

theorem Distinct.overlay : ∀ {below value : Node}, below.Distinct → value.Distinct →
    (below.overlay value).Distinct
  | _, .table entries, below, above => by
    rw [Node.overlay]
    exact .overlayEntries entries below.entries above.values
  | _, .nothing, _, above | _, .flag _, _, above | _, .integer _, _, above
  | _, .decimal _ _, _, above | _, .text _, _, above | _, .list _, _, above => by
    rw [Node.overlay]
    · exact above
    · exact nofun

theorem Distinct.overlayEntries : ∀ {below : List (String × Node)} (above : List (String × Node)),
    Distinct (.table below) → (∀ entry ∈ above, entry.2.Distinct) →
      Distinct (.table (overlayEntries below above))
  | _, [], distinct, _ => by
    rw [Node.overlayEntries]
    exact distinct
  | _, (key, value) :: rest, distinct, above => by
    rw [Node.overlayEntries]
    obtain ⟨first, others⟩ := List.forall_mem_cons.mp above
    exact .overlayEntries rest (distinct.put ((distinct.find key).overlay first) key) others

end

theorem Distinct.overlayAt {below value : Node} (distinct : below.Distinct) (new : value.Distinct)
    (path : List Step) : (below.overlayAt path value).Distinct := by
  induction path generalizing below with
  | nil => exact distinct.overlay new
  | cons step rest ih =>
    cases step with
    | key name =>
      exact distinct.entries.put (ih (distinct.entries.find name)) name
    | index position => exact .flat nofun

/-! Trees read from JSON. -/

mutual

theorem distinct_ofJson : ∀ json : Json, (ofJson json).Distinct
  | .object members => distinct_entriesOfMembers members distinct_empty
  | .null | .bool _ | .string _ | .array _ => .flat nofun
  | .number written => by
    rw [ofJson, ofNumber]
    split <;> exact .flat nofun

theorem distinct_entriesOfMembers : ∀ (members : List (String × Json)) {before : List (String × Node)},
    Distinct (.table before) → Distinct (.table (entriesOfMembers before members))
  | [], _, distinct => distinct
  | (key, value) :: rest, _, distinct =>
    distinct_entriesOfMembers rest (distinct.put (distinct_ofJson value) key)

end

/-- Of a repeated key the last value counts. -/
theorem lookup_entriesOfMembers (members : List (String × Json)) (before : List (String × Node))
    (key : String) : (entriesOfMembers before members).lookup key =
      ((members.reverse.lookup key).map ofJson).or (before.lookup key) := by
  induction members generalizing before with
  | nil => simp [entriesOfMembers]
  | cons member rest ih =>
    obtain ⟨name, value⟩ := member
    rw [entriesOfMembers, ih, lookup_put, List.reverse_cons, List.lookup_append]
    cases rest.reverse.lookup key with
    | some _ => simp
    | none => by_cases same : key = name <;> simp [List.lookup_cons, same, beq_false_of_ne]

theorem lookup_ofJson (json : Json) (key : String) :
    (ofJson json).entries.lookup key = (json.member? key).map ofJson := by
  cases json with
  | object members => simp [ofJson, entries, lookup_entriesOfMembers, Json.member?]
  | number written =>
    rw [ofJson, ofNumber]
    split <;> rfl
  | _ => rfl

/-- What is found under a key is a table just if it comes from an object. -/
theorem lookup_find_ofJson (json : Json) (area key : String) :
    (find area (ofJson json).entries).entries.lookup key =
      ((json.member? area).bind (·.member? key)).map ofJson := by
  rw [find, lookup_ofJson]
  cases json.member? area with
  | none => rfl
  | some inside => exact lookup_ofJson inside key

/-! Over nothing a tree without repeated keys stays as it is. -/

theorem put_of_fresh {key : String} {entries : List (String × Node)} (value : Node)
    (fresh : key ∉ entries.map (·.1)) : put key value entries = entries ++ [(key, value)] := by
  induction entries with
  | nil => rfl
  | cons entry rest ih =>
    rw [List.map_cons, List.mem_cons, not_or] at fresh
    rw [put, if_neg (Ne.symm fresh.1), ih fresh.2, List.cons_append]

theorem find_of_fresh {key : String} {entries : List (String × Node)}
    (fresh : key ∉ entries.map (·.1)) : find key entries = nothing := by
  rw [find, lookup_of_fresh fresh, Option.getD_none]

mutual

theorem nothing_overlay : ∀ {value : Node}, value.Distinct → nothing.overlay value = value
  | .table above, distinct => by
    have keys : ((([] : List (String × Node)) ++ above).map (·.1)).Nodup := distinct.keys
    rw [overlay, Node.entries, overlayEntries_append above keys distinct.values, List.nil_append]
    exact nofun
  | .nothing, _ | .flag _, _ | .integer _, _ | .decimal _ _, _ | .text _, _ | .list _, _ => by
    rw [overlay]
    exact nofun

theorem overlayEntries_append : ∀ {before : List (String × Node)} (above : List (String × Node)),
    ((before ++ above).map (·.1)).Nodup → (∀ entry ∈ above, entry.2.Distinct) →
      overlayEntries before above = before ++ above
  | before, [], _, _ => by rw [overlayEntries, List.append_nil]
  | before, (key, value) :: rest, keys, distinct => by
    obtain ⟨first, others⟩ := List.forall_mem_cons.mp distinct
    have fresh : key ∉ before.map (·.1) := by
      rw [List.map_append, List.nodup_append] at keys
      exact fun member => keys.2.2 key member key List.mem_cons_self rfl
    rw [List.append_cons] at keys
    rw [overlayEntries, find_of_fresh fresh, nothing_overlay first, put_of_fresh value fresh,
      overlayEntries_append rest keys others, List.append_assoc]
    rfl

end

end GraphQuery.Settings.Node
