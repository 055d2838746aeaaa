import GraphQuery.Grammar.Description
import GraphQuery.Proofs.Grammar.Assembly
import GraphQuery.Proofs.Text.Digits
import GraphQuery.Proofs.Text.Quoting

/-! The text of a grammar tells all its rules.

Names of types are in no rule. Whatever else an entry has can be read off its lines from left to right,
since the text up to there says where each piece ends. -/

set_option autoImplicit false

namespace GraphQuery.Grammar

open Text

/-- The entry without the name of its type, under which a query that lacks it is refused. -/
def TypeEntry.anonymous (entry : TypeEntry) : TypeEntry :=
  { entry with name := "" }

def anonymous (grammar : Grammar) : Grammar where
  nodeEntries := grammar.nodeEntries.map (·.anonymous)
  relationshipEntries := grammar.relationshipEntries.map (·.anonymous)

/-! Pieces of lines. -/

theorem TypeEntry.toList_tag (entry : TypeEntry) : entry.tag.toList =
    (match entry.kind with | .node => 'n' | .relationship => 'r') ::
      Nat.toDigits 10 entry.id.toNat := by
  unfold tag
  cases entry.kind <;> simp [toString]

theorem TypeEntry.tag_append_inj {first second : TypeEntry} {rest more : List Char}
    (same : first.tag.toList ++ ' ' :: rest = second.tag.toList ++ ' ' :: more) :
    first.kind = second.kind ∧ first.id = second.id ∧ rest = more := by
  have digits : ∀ n, ' ' ∉ Nat.toDigits 10 n := fun n member =>
    absurd (isDigit_of_mem_toDigits ' ' member) (by decide)
  rw [toList_tag, toList_tag, List.cons_append, List.cons_append, List.cons.injEq] at same
  obtain ⟨letters, later⟩ := same
  obtain ⟨ids, ended⟩ := append_stop_inj (digits _) (digits _) later
  refine ⟨?_, UInt64.toNat_inj.mp (toDigits_injective ids), ended⟩
  cases kind : first.kind <;> cases kind' : second.kind <;> simp_all

section Forms
variable {form next : List Char} {forms others : List (List Char)} {rest more : List Char}

@[simp] theorem toList_quotedForms_singleton : (quotedForms [form]).toList = quoted form := by
  simp [quotedForms, orElse]

@[simp] theorem toList_quotedForms_cons_cons : (quotedForms (form :: next :: forms)).toList =
    quoted form ++ ' ' :: '|' :: ' ' :: (quotedForms (next :: forms)).toList := by
  simp [quotedForms, orElse]

theorem quotedForms_cons_ne_space :
    (quotedForms (form :: forms)).toList ++ rest ≠ ' ' :: more := by
  cases forms <;> simp [quoted]

theorem quotedForms_append_inj
    (same : (quotedForms forms).toList ++ ' ' :: '-' :: rest =
      (quotedForms others).toList ++ ' ' :: '-' :: more) : forms = others ∧ rest = more := by
  induction forms generalizing others with
  | nil =>
    cases others with
    | nil => simpa using same
    | cons other others => exact absurd same.symm quotedForms_cons_ne_space
  | cons form forms ih =>
    cases others with
    | nil => exact absurd same quotedForms_cons_ne_space
    | cons other others =>
      -- Behind a form comes a bar if there is another one, and an arrow if not.
      cases forms <;> cases others <;>
        simp only [toList_quotedForms_singleton, toList_quotedForms_cons_cons, List.append_assoc,
          List.cons_append] at same <;>
        obtain ⟨rfl, later⟩ := quoted_append_inj same <;>
        simp only [List.cons.injEq, true_and] at later
      · exact ⟨rfl, later⟩
      · exact absurd later.1 (by decide)
      · exact absurd later.1 (by decide)
      · obtain ⟨forms, ended⟩ := ih later
        exact ⟨by rw [forms], ended⟩

end Forms

/-! Lines. -/

theorem toList_unlines_cons (line : String) (lines : List String) :
    (unlines (line :: lines)).toList = line.toList ++ '\n' :: (unlines lines).toList := by
  simp [unlines, String.join_cons]

theorem toList_unlines_append (lines more : List String) :
    (unlines (lines ++ more)).toList = (unlines lines).toList ++ (unlines more).toList := by
  simp [unlines, String.join_append]

namespace TypeEntry
variable {first second : TypeEntry} {rest more : List Char}

theorem nameLine_append_inj (same : first.nameLine.toList ++ rest = second.nameLine.toList ++ more) :
    first.kind = second.kind ∧ first.id = second.id ∧ first.forms = second.forms ∧ rest = more := by
  simp only [nameLine, toString, String.toList_append, List.append_assoc] at same
  obtain ⟨kinds, ids, later⟩ := tag_append_inj same
  rw [kinds, ids] at later
  obtain ⟨forms, ended⟩ := quotedForms_append_inj ((List.append_right_inj ['=', ' ']).mp later)
  exact ⟨kinds, ids, forms, by simpa using ended⟩

def propertyText (entry : TypeEntry) (index : Nat) : List PropertyEntry → List Char
  | [] => []
  | property :: rest =>
    (entry.propertyLine property index).toList ++ '\n' :: entry.propertyText (index + 1) rest

theorem toList_propertyLines (entry : TypeEntry) :
    (unlines entry.propertyLines).toList = entry.propertyText 0 entry.properties := by
  have from_index : ∀ index properties,
      (unlines (properties.mapIdx fun position property =>
        entry.propertyLine property (position + index))).toList = entry.propertyText index properties := by
    intro index properties
    induction properties generalizing index with
    | nil => rfl
    | cons property properties ih =>
      rw [List.mapIdx_cons, toList_unlines_cons, propertyText, ← ih (index + 1), Nat.zero_add]
      simp only [Nat.add_assoc, Nat.add_comm 1 index]
  exact from_index 0 entry.properties

section Properties
variable {index : Nat} {property other : PropertyEntry} {properties others : List PropertyEntry}
  (tags : first.tag = second.tag)
include tags

theorem propertyLine_append_inj
    (same : (first.propertyLine property index).toList ++ rest =
      (second.propertyLine other index).toList ++ more) : property = other ∧ rest = more := by
  simp only [propertyLine, propertyTag, tags, toString, String.toList_append, List.append_assoc,
    List.append_cancel_left_eq, quote, String.toList_ofList] at same
  obtain ⟨forms, later⟩ := quotedForms_append_inj same
  obtain ⟨keys, ended⟩ := quoted_append_inj ((List.append_right_inj ['>', ' ']).mp later)
  cases property
  cases other
  exact ⟨by rw [PropertyEntry.mk.injEq]; exact ⟨String.toList_inj.mp keys, forms⟩, ended⟩

/-- Only a line of one property goes on with a digit. -/
theorem propertyLine_append_ne : (first.propertyLine property index).toList ++ rest ≠
    second.tag.toList ++ ("_property ".toList ++ more) := by
  intro same
  obtain ⟨c, digits, written⟩ := List.exists_cons_of_ne_nil (Nat.toDigits_ne_nil (b := 10) (n := index))
  have digit : c.isDigit = true := isDigit_of_mem_toDigits c (written ▸ List.mem_cons_self)
  simp only [propertyLine, propertyTag, tags, toString, String.toList_append, List.append_assoc,
    List.append_cancel_left_eq, Nat.toList_repr, written] at same
  have space := List.head_eq_of_cons_eq ((List.append_right_inj "_property".toList).mp same)
  rw [space] at digit
  exact absurd digit (by decide)

theorem properties_eq_of_propertyText
    (same : first.propertyText index properties ++
        (first.tag.toList ++ ("_property ".toList ++ rest)) =
      second.propertyText index others ++
        (second.tag.toList ++ ("_property ".toList ++ more))) : properties = others := by
  induction properties generalizing index others with
  | nil =>
    cases others with
    | nil => rfl
    | cons other others =>
      rw [propertyText, propertyText, List.append_assoc] at same
      exact absurd same.symm (propertyLine_append_ne tags.symm)
  | cons property properties ih =>
    cases others with
    | nil =>
      rw [propertyText, propertyText, List.append_assoc] at same
      exact absurd same (propertyLine_append_ne tags)
    | cons other others =>
      rw [propertyText, propertyText, List.append_assoc, List.append_assoc] at same
      obtain ⟨rfl, later⟩ := propertyLine_append_inj tags same
      rw [ih (List.cons.inj later).2]

end Properties

theorem describe_anonymous (entry : TypeEntry) : entry.anonymous.describe = entry.describe := rfl

theorem exists_toList_describe (entry : TypeEntry) : ∃ after,
    entry.describe.toList = entry.nameLine.toList ++ '\n' ::
      (entry.propertyText 0 entry.properties ++
        (entry.tag.toList ++ ("_property ".toList ++ after))) := by
  have anyProperty : entry.anyPropertyLine.toList = entry.tag.toList ++ ("_property ".toList ++
      ("= ".toList ++ (choice (entry.properties.mapIdx fun index _ => entry.propertyTag index)).toList)) := by
    simp [anyPropertyLine, toString]
  rw [describe, lines, List.cons_append, toList_unlines_cons, toList_unlines_append,
    toList_propertyLines, toList_unlines_cons, anyProperty]
  simp only [List.append_assoc]
  exact ⟨_, rfl⟩

/-- The text of an entry tells the entry but for the name of its type, and where it ends. -/
theorem describe_append_inj
    (same : first.describe.toList ++ rest = second.describe.toList ++ more) :
    first.anonymous = second.anonymous ∧ rest = more := by
  have entries : first.anonymous = second.anonymous := by
    obtain ⟨after, written⟩ := exists_toList_describe first
    obtain ⟨after', written'⟩ := exists_toList_describe second
    rw [written, written'] at same
    simp only [List.append_assoc, List.cons_append] at same
    obtain ⟨kinds, ids, forms, later⟩ := nameLine_append_inj same
    have tags : first.tag = second.tag := by rw [tag, tag, kinds, ids]
    have properties := properties_eq_of_propertyText tags (List.cons.inj later).2
    simp [anonymous, kinds, ids, forms, properties]
  refine ⟨entries, ?_⟩
  rw [← describe_anonymous first, entries, describe_anonymous] at same
  exact List.append_cancel_left same

/-- What comes after all entries does not look like one. -/
theorem describe_append_ne {entry : TypeEntry} {letter : Char} :
    entry.describe.toList ++ rest ≠ letter :: '_' :: more := by
  intro same
  obtain ⟨c, digits, written⟩ :=
    List.exists_cons_of_ne_nil (Nat.toDigits_ne_nil (b := 10) (n := entry.id.toNat))
  have digit : c.isDigit = true := isDigit_of_mem_toDigits c (written ▸ List.mem_cons_self)
  simp only [describe, lines, List.cons_append, toList_unlines_cons, nameLine, toString,
    String.toList_append, toList_tag, written] at same
  have underscore : c = '_' := List.head_eq_of_cons_eq (List.cons.inj same).2
  rw [underscore] at digit
  exact absurd digit (by decide)

theorem map_anonymous_of_describe {entries others : List TypeEntry} {letter : Char}
    (same : entries.flatMap (·.describe.toList) ++ letter :: '_' :: rest =
      others.flatMap (·.describe.toList) ++ letter :: '_' :: more) :
    entries.map (·.anonymous) = others.map (·.anonymous) := by
  induction entries generalizing others with
  | nil =>
    cases others with
    | nil => rfl
    | cons other others =>
      rw [List.flatMap_cons, List.append_assoc] at same
      exact absurd same.symm describe_append_ne
  | cons entry entries ih =>
    cases others with
    | nil =>
      rw [List.flatMap_cons, List.append_assoc] at same
      exact absurd same describe_append_ne
    | cons other others =>
      rw [List.flatMap_cons, List.flatMap_cons, List.append_assoc, List.append_assoc] at same
      obtain ⟨first, later⟩ := describe_append_inj same
      rw [List.map_cons, List.map_cons, first, ih later]

end TypeEntry

/-! Grammars. -/

theorem exists_toList_describe (grammar : Grammar) : ∃ after,
    grammar.describe.toList = (unlines wordLines).toList ++
      ((grammar.nodeEntries ++ grammar.relationshipEntries).flatMap (·.describe.toList) ++
        'n' :: '_' :: after) := by
  have entries : ∀ entries : List TypeEntry, (unlines (entries.flatMap (·.lines))).toList =
      entries.flatMap (·.describe.toList) := by
    intro entries
    induction entries with
    | nil => rfl
    | cons entry entries ih =>
      rw [List.flatMap_cons, toList_unlines_append, ih]
      rfl
  rw [describe, lines, toList_unlines_append, toList_unlines_append, entries, List.append_assoc,
    toList_unlines_cons]
  simp only [toString, String.toList_append, List.append_assoc]
  exact ⟨_, rfl⟩

def Kinded (grammar : Grammar) : Prop :=
  ∀ kind, ∀ entry ∈ grammar.entries kind, entry.kind = kind

theorem kinded_ofTypes (schema : Schema) : Kinded (ofTypes schema) :=
  fun _ _ => kind_of_mem_entries

theorem filter_kind_anonymous {grammar : Grammar} (kinded : grammar.Kinded) (kind : Kind) :
    ((grammar.nodeEntries ++ grammar.relationshipEntries).map (·.anonymous)).filter (·.kind = kind) =
      (grammar.entries kind).map (·.anonymous) := by
  have kept : ((grammar.entries kind).map (·.anonymous)).filter (·.kind = kind) =
      (grammar.entries kind).map (·.anonymous) :=
    List.filter_eq_self.mpr <| List.forall_mem_map.mpr fun entry member =>
      decide_eq_true (kinded kind entry member)
  have dropped : ∀ other ≠ kind, ((grammar.entries other).map (·.anonymous)).filter (·.kind = kind) = [] :=
    fun other apart => List.filter_eq_nil_iff.mpr <| List.forall_mem_map.mpr fun entry member same =>
      apart ((kinded other entry member).symm.trans (of_decide_eq_true same))
  rw [List.map_append, List.filter_append]
  cases kind with
  | node => exact (congrArg₂ _ kept (dropped .relationship (by decide))).trans (List.append_nil _)
  | relationship => exact congrArg₂ (· ++ ·) (dropped .node (by decide)) kept

theorem describe_anonymous (grammar : Grammar) : grammar.anonymous.describe = grammar.describe := by
  have tags : ∀ entries : List TypeEntry,
      facetTags (entries.map (·.anonymous)) = facetTags entries := fun _ => List.map_map
  have lines : ∀ entries : List TypeEntry,
      (entries.map (·.anonymous)).flatMap (·.lines) = entries.flatMap (·.lines) :=
    fun entries => List.flatMap_map _ _ entries
  simp only [describe, Grammar.lines, anonymous, ← List.map_append, tags, lines]

/-- The text of a grammar tells the grammar but for the names of its types. -/
theorem describe_eq_iff {grammar other : Grammar} (kinded : grammar.Kinded) (kinded' : other.Kinded) :
    grammar.describe = other.describe ↔ grammar.anonymous = other.anonymous := by
  refine ⟨fun same => ?_, fun same => by rw [← describe_anonymous, same, describe_anonymous]⟩
  obtain ⟨after, written⟩ := exists_toList_describe grammar
  obtain ⟨after', written'⟩ := exists_toList_describe other
  have texts := congrArg String.toList same
  rw [written, written'] at texts
  have all := TypeEntry.map_anonymous_of_describe (List.append_cancel_left texts)
  have each : ∀ kind, (grammar.entries kind).map (·.anonymous) = (other.entries kind).map (·.anonymous) :=
    fun kind => by rw [← filter_kind_anonymous kinded, ← filter_kind_anonymous kinded', all]
  rw [anonymous, anonymous, mk.injEq]
  exact ⟨each .node, each .relationship⟩

end GraphQuery.Grammar
