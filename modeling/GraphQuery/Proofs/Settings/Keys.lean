import GraphQuery.Settings.Basic
import Mathlib.Data.List.Basic
import Mathlib.Data.List.TakeWhile

/-! The keys of settings, as paths and in the names of environment variables.

A path of two names is written in one way only, with a point between them. In the name of a variable two
underscores may stand for the point, and letter case makes no difference. -/

set_option autoImplicit false

namespace GraphQuery.Settings

open Step

/-! Paths. -/

theorem exists_of_mem_mapM {α β : Type} {read? : α → Option β} {items : List α} {values : List β}
    (read : items.mapM read? = some values) {value : β} (member : value ∈ values) :
    ∃ item ∈ items, read? item = some value := by
  induction items generalizing values with
  | nil =>
    cases read
    cases member
  | cons item rest ih =>
    simp only [List.mapM_cons, Option.bind_eq_bind, Option.bind_eq_some_iff, Option.pure_def,
      Option.some.injEq] at read
    obtain ⟨first, begun, others, more, rfl⟩ := read
    rcases List.mem_cons.mp member with rfl | later
    · exact ⟨item, List.mem_cons_self, begun⟩
    · obtain ⟨found, listed, same⟩ := ih more later
      exact ⟨found, List.mem_cons_of_mem item listed, same⟩

theorem index_of_ofSubscript {text : List Char} {step : Step} (read : ofSubscript? text = some step) :
    ∃ n, step = .index n := by
  unfold ofSubscript? at read
  split at read
  · obtain ⟨n, _, rfl⟩ := Option.map_eq_some_iff.mp read
    exact ⟨n, rfl⟩
  · cases read

/-- Subscripts are positions, and there are none only in an empty text. -/
theorem indices_of_ofSubscripts {text : List Char} {steps : List Step}
    (read : ofSubscripts? text = some steps) :
    (∀ step ∈ steps, ∃ n, step = .index n) ∧ (steps = [] → text = []) := by
  unfold ofSubscripts? at read
  split at read
  · next subscripts split =>
    constructor
    · intro step member
      obtain ⟨_, _, found⟩ := exists_of_mem_mapM read member
      exact index_of_ofSubscript found
    · rintro rfl
      have empty : subscripts.reverse = [] := by
        cases parts : subscripts.reverse with
        | nil => rfl
        | cons first rest =>
          rw [parts] at read
          simp [List.mapM_cons, Option.bind_eq_some_iff] at read
      rw [List.reverse_eq_nil_iff.mp empty] at split
      have whole : [']'].intercalate (text.splitOn ']') = text := List.intercalate_splitOn ']'
      rw [List.reverse_eq_iff.mp split] at whole
      simpa using whole.symm
  · cases read

theorem exists_of_ofPart {part : List Char} {steps : List Step} (read : ofPart? part = some steps) :
    ∃ name subscripts, steps = .key name :: subscripts ∧ (∀ step ∈ subscripts, ∃ n, step = .index n) ∧
      (subscripts = [] → part = name.toList) := by
  unfold ofPart? at read
  split at read
  · cases read
  · obtain ⟨subscripts, found, rfl⟩ := Option.map_eq_some_iff.mp read
    obtain ⟨indices, whole⟩ := indices_of_ofSubscripts found
    refine ⟨_, subscripts, rfl, indices, fun none => ?_⟩
    have split := List.takeWhile_append_dropWhile (p := isKeyChar) (l := part)
    rw [whole none, List.append_nil] at split
    rw [String.toList_ofList, split]

/-- A path that consists of names only is written with just these names. -/
theorem parts_of_names {parts : List (List Char)} {steps : List (List Step)} {names : List String}
    (read : parts.mapM ofPart? = some steps) (named : steps.flatten = names.map .key) :
    parts = names.map (·.toList) := by
  induction parts generalizing steps names with
  | nil =>
    cases read
    cases names with
    | nil => rfl
    | cons => cases named
  | cons part rest ih =>
    simp only [List.mapM_cons, Option.bind_eq_bind, Option.bind_eq_some_iff, Option.pure_def,
      Option.some.injEq] at read
    obtain ⟨first, begun, others, more, rfl⟩ := read
    obtain ⟨name, subscripts, rfl, indices, whole⟩ := exists_of_ofPart begun
    cases names with
    | nil => cases named
    | cons head tail =>
      rw [List.flatten_cons, List.cons_append, List.map_cons, List.cons.injEq, Step.key.injEq] at named
      obtain ⟨rfl, named⟩ := named
      -- A subscript in front of the next name would be a position, not a name.
      have bare : subscripts = [] := by
        refine List.eq_nil_iff_forall_not_mem.mpr fun step member => ?_
        obtain ⟨n, rfl⟩ := indices step member
        have inside : Step.index n ∈ tail.map Step.key := named ▸ List.mem_append_left _ member
        simp at inside
      rw [bare, List.nil_append] at named
      rw [whole bare, ih more named, List.map_cons]

theorem exists_pathOf (key : String) : ∃ name rest, pathOf key = .key name :: rest := by
  unfold pathOf
  split
  · next steps read =>
    cases parts : key.toList.splitOn '.' with
    | nil => exact absurd parts (by simp)
    | cons part others =>
      rw [parts] at read
      simp only [List.mapM_cons, Option.bind_eq_bind, Option.bind_eq_some_iff, Option.pure_def,
        Option.some.injEq] at read
      obtain ⟨first, begun, more, _, rfl⟩ := read
      obtain ⟨name, subscripts, rfl, _⟩ := exists_of_ofPart begun
      exact ⟨name, _, rfl⟩
  · exact ⟨key, [], rfl⟩

theorem toList_of_pathOf {key first second : String} (path : pathOf key = [.key first, .key second]) :
    key.toList = first.toList ++ '.' :: second.toList := by
  unfold pathOf at path
  split at path
  · next steps read =>
    have whole : ['.'].intercalate (key.toList.splitOn '.') = key.toList := List.intercalate_splitOn '.'
    rw [@parts_of_names _ _ [first, second] read path] at whole
    simpa using whole.symm
  · cases path

/-! Names of variables. -/

section Dotted
variable {c : Char} {text rest word : List Char}

theorem dotted_eq_nil (same : dotted text = []) : text = [] := by
  unfold dotted at same
  split at same
  · rfl
  · cases same
  · cases same

theorem dotted_eq_point (same : dotted text = '.' :: rest) :
    ∃ more, (text = '.' :: more ∨ text = '_' :: '_' :: more) ∧ dotted more = rest := by
  unfold dotted at same
  split at same
  · cases same
  · exact ⟨_, .inr rfl, (List.cons.inj same).2⟩
  · obtain ⟨rfl, more⟩ := List.cons.inj same
    exact ⟨_, .inl rfl, more⟩

theorem dotted_eq_cons (solid : c ≠ '.') (same : dotted text = c :: rest) :
    ∃ more, text = c :: more ∧ dotted more = rest := by
  unfold dotted at same
  split at same
  · cases same
  · exact absurd (List.cons.inj same).1.symm solid
  · obtain ⟨rfl, more⟩ := List.cons.inj same
    exact ⟨_, rfl, more⟩

theorem dotted_eq_append (solid : '.' ∉ word) (same : dotted text = word ++ rest) :
    ∃ more, text = word ++ more ∧ dotted more = rest := by
  induction word generalizing text with
  | nil => exact ⟨text, rfl, same⟩
  | cons c word ih =>
    rw [List.mem_cons, not_or] at solid
    obtain ⟨middle, rfl, behind⟩ := dotted_eq_cons (Ne.symm solid.1) same
    obtain ⟨last, rfl, ended⟩ := ih solid.2 behind
    exact ⟨last, rfl, ended⟩

end Dotted

/-- A point between two names comes from a point or from two underscores. -/
theorem text_of_dotted {text first second : List Char} (solid : '.' ∉ first) (solid' : '.' ∉ second)
    (same : dotted text = first ++ '.' :: second) :
    text = first ++ '.' :: second ∨ text = first ++ '_' :: '_' :: second := by
  obtain ⟨behind, rfl, pointed⟩ := dotted_eq_append solid same
  obtain ⟨last, begun, ended⟩ := dotted_eq_point pointed
  rw [← List.append_nil second] at ended
  obtain ⟨nothing, rfl, empty⟩ := dotted_eq_append solid' ended
  rw [dotted_eq_nil empty, List.append_nil] at begun
  rcases begun with rfl | rfl
  · exact .inl rfl
  · exact .inr rfl

theorem lowercase_of_variableKey {name key : String} (read : variableKey? name = some key) :
    ∃ rest, Text.lowercase name.toList = variableStart ++ rest ∧ dotted rest = key.toList := by
  obtain ⟨rest, split, rfl⟩ := Option.map_eq_some_iff.mp read
  exact ⟨rest, (List.isPrefixOf?_eq_some_iff_append_eq.mp split).symm, String.toList_ofList.symm⟩

theorem variableKey_of_lowercase {name : String} {rest : List Char}
    (same : Text.lowercase name.toList = variableStart ++ rest) :
    variableKey? name = some (.ofList (dotted rest)) := by
  have split : variableStart.isPrefixOf? (Text.lowercase name.toList) = some rest :=
    List.isPrefixOf?_eq_some_iff_append_eq.mpr same.symm
  rw [variableKey?, split, Option.map_some]

end GraphQuery.Settings
