import GraphQuery.Proofs.Parsing
import GraphQuery.Proofs.Text.Digits
import GraphQuery.Proofs.Text.Quoting

/-! Labels are numbered without gaps.

A plan takes its labels one after the other, so its origins are a run of `Labels.mint`. What holds of
every run holds of every plan: the occurrences of one type are labelled with 0, 1, 2 and so on, and
no two origins share a label. -/

set_option autoImplicit false

namespace GraphQuery

open Grammar Query

/-- The label of the occurrence of a type that comes after `ordinal` others. -/
def labelText (kind : Kind) (id : TypeId) (ordinal : Nat) : String :=
  match kind with
  | .node => s!"n{id}_{ordinal}"
  | .relationship => s!"r{id}_{ordinal}"

theorem Grammar.TypeEntry.label_eq (entry : TypeEntry) (ordinal : Nat) :
    entry.label ordinal = labelText entry.kind entry.id ordinal := by
  unfold label tag labelText
  cases entry.kind <;> rfl

theorem toList_labelText (kind : Kind) (id : TypeId) (ordinal : Nat) :
    (labelText kind id ordinal).toList =
      (match kind with | .node => 'n' | .relationship => 'r') ::
        (Nat.toDigits 10 id.toNat ++ '_' :: Nat.toDigits 10 ordinal) := by
  cases kind <;> simp [labelText, toString]

/-- A label tells its kind, its id and its ordinal, since no number contains an underscore. -/
theorem labelText_injective {kind other : Kind} {id otherId : TypeId} {ordinal otherOrdinal : Nat}
    (same : labelText kind id ordinal = labelText other otherId otherOrdinal) :
    kind = other ∧ id = otherId ∧ ordinal = otherOrdinal := by
  have letters := congrArg String.toList same
  rw [toList_labelText, toList_labelText, List.cons.injEq] at letters
  obtain ⟨first, rest⟩ := letters
  have kinds : kind = other := by cases kind <;> cases other <;> simp_all
  have digits : ∀ n, '_' ∉ Nat.toDigits 10 n := fun _ => Nat.underscore_not_in_toDigits
  -- The id ends at the first underscore.
  have numbers := Text.append_stop_inj (digits _) (digits _) rest
  exact ⟨kinds, UInt64.toNat_inj.mp (Text.toDigits_injective numbers.1),
    Text.toDigits_injective numbers.2⟩

/-! Runs of `mint`. -/

/-- Origins that take the labels which follow `before`, in their order, and leave `after`. -/
inductive Labelled : Labels → List Origin → Labels → Prop where
  | nil {labels : Labels} : Labelled labels [] labels
  | cons {labels after : Labels} {entry : TypeEntry} {rest : List Origin} :
      Labelled (labels.mint entry).2 rest after →
      Labelled labels (⟨entry.id, entry.kind, (labels.mint entry).1⟩ :: rest) after

theorem Labelled.single {labels : Labels} {entry : TypeEntry} {kind : Kind} (agree : entry.kind = kind) :
    Labelled labels [⟨entry.id, kind, (labels.mint entry).1⟩] (labels.mint entry).2 :=
  agree ▸ .cons .nil

theorem Labelled.append {before middle after : Labels} {first second : List Origin}
    (left : Labelled before first middle) (right : Labelled middle second after) :
    Labelled before (first ++ second) after := by
  induction left with
  | nil => exact right
  | cons _ ih => exact .cons (ih right)

@[simp] theorem mint_label (labels : Labels) (entry : TypeEntry) :
    (labels.mint entry).1 = labelText entry.kind entry.id (labels.used entry.kind entry.id) :=
  entry.label_eq _

theorem used_mint_self (labels : Labels) (entry : TypeEntry) :
    (labels.mint entry).2.used entry.kind entry.id = labels.used entry.kind entry.id + 1 := by
  simp [Labels.mint]

theorem used_mint_of_ne {labels : Labels} {entry : TypeEntry} {kind : Kind} {id : TypeId}
    (other : ¬(entry.kind = kind ∧ entry.id = id)) :
    (labels.mint entry).2.used kind id = labels.used kind id := by
  have other : ¬(kind = entry.kind ∧ id = entry.id) :=
    fun same => other ⟨same.1.symm, same.2.symm⟩
  simp [Labels.mint, other]

theorem used_le_used_mint (labels : Labels) (entry : TypeEntry) (kind : Kind) (id : TypeId) :
    labels.used kind id ≤ (labels.mint entry).2.used kind id := by
  by_cases same : entry.kind = kind ∧ entry.id = id
  · obtain ⟨rfl, rfl⟩ := same
    rw [used_mint_self]
    omega
  · rw [used_mint_of_ne same]

def occurrences (kind : Kind) (id : TypeId) (origins : List Origin) : List Origin :=
  origins.filter fun origin => origin.kind = kind ∧ origin.typeId = id

theorem Labelled.numbered {before after : Labels} {origins : List Origin}
    (run : Labelled before origins after) (kind : Kind) (id : TypeId) :
    (occurrences kind id origins).map (·.label) =
      (List.range' (before.used kind id) (occurrences kind id origins).length).map
        (labelText kind id) := by
  induction run with
  | nil => rfl
  | @cons labels after entry rest _ ih =>
    by_cases same : entry.kind = kind ∧ entry.id = id
    · obtain ⟨rfl, rfl⟩ := same
      rw [used_mint_self] at ih
      simp only [occurrences, and_self, decide_true, List.filter_cons_of_pos, List.map_cons,
        List.length_cons, List.range'_succ, mint_label] at ih ⊢
      rw [ih]
    · rw [used_mint_of_ne same] at ih
      simpa only [occurrences, same, decide_false, Bool.false_eq_true, not_false_eq_true,
        List.filter_cons_of_neg] using ih

/-- A run uses one label of a type for each of its occurrences. -/
theorem Labelled.used {before after : Labels} {origins : List Origin}
    (run : Labelled before origins after) (kind : Kind) (id : TypeId) :
    after.used kind id = before.used kind id + (occurrences kind id origins).length := by
  induction run with
  | nil => rfl
  | @cons labels after entry rest _ ih =>
    rw [ih]
    by_cases same : entry.kind = kind ∧ entry.id = id
    · obtain ⟨rfl, rfl⟩ := same
      simp only [used_mint_self, occurrences, and_self, decide_true, List.filter_cons_of_pos,
        List.length_cons]
      omega
    · simp only [used_mint_of_ne same, occurrences, same, decide_false, Bool.false_eq_true,
        not_false_eq_true, List.filter_cons_of_neg]

/-- A run labels with ordinals that were not used before it. -/
theorem Labelled.exists_ordinal {before after : Labels} {origins : List Origin}
    (run : Labelled before origins after) {origin : Origin} (member : origin ∈ origins) :
    ∃ ordinal, before.used origin.kind origin.typeId ≤ ordinal ∧
      origin.label = labelText origin.kind origin.typeId ordinal := by
  induction run with
  | nil => cases member
  | @cons labels after entry rest _ ih =>
    rcases List.mem_cons.mp member with rfl | member
    · exact ⟨_, Nat.le_refl _, mint_label labels entry⟩
    · obtain ⟨ordinal, later, label⟩ := ih member
      exact ⟨ordinal, Nat.le_trans (used_le_used_mint labels entry _ _) later, label⟩

theorem Labelled.nodup {before after : Labels} {origins : List Origin}
    (run : Labelled before origins after) : (origins.map (·.label)).Nodup := by
  induction run with
  | nil => exact List.nodup_nil
  | @cons labels after entry rest tail ih =>
    refine List.nodup_cons.mpr ⟨fun member => ?_, ih⟩
    obtain ⟨origin, listed, same⟩ := List.mem_map.mp member
    -- The same label further on would carry an ordinal that is used up already.
    obtain ⟨ordinal, later, label⟩ := tail.exists_ordinal listed
    rw [label, mint_label] at same
    obtain ⟨kinds, ids, ordinals⟩ := labelText_injective same
    rw [kinds, ids, used_mint_self] at later
    omega

/-! Plans are runs. -/

namespace Plan

variable {grammar : Grammar} {labels after : Labels} {plan : Plan}

def KindsAgree (grammar : Grammar) : Prop :=
  ∀ {kind : Kind} {id : TypeId} {entry : TypeEntry},
    grammar.entry? kind id = some entry → entry.kind = kind

theorem labelled_of_ofFacet (agree : KindsAgree grammar) {facet : Facet}
    (reduced : ofFacet grammar facet labels = .ok (plan, after)) :
    Labelled labels plan.origins after := by
  obtain ⟨entry, found, rfl, rfl⟩ := ofFacet_eq_ok.mp reduced
  exact .single (agree found)

theorem labelled_of_ofGroup (agree : KindsAgree grammar) {facets : List Facet}
    (reduced : ofGroup grammar facets labels = .ok (plan, after)) :
    Labelled labels plan.origins after := by
  induction facets generalizing labels plan with
  | nil =>
    obtain ⟨rfl, rfl⟩ := ofGroup_nil_eq_ok.mp reduced
    exact .nil
  | cons facet rest ih =>
    obtain ⟨first, middle, more, head, tail, rfl⟩ := ofGroup_cons_eq_ok.mp reduced
    exact (labelled_of_ofFacet agree head).append (ih tail)

theorem labelled_of_ofRelation (agree : KindsAgree grammar) {id : TypeId}
    (reduced : ofRelation grammar id labels = .ok (plan, after)) :
    Labelled labels plan.origins after := by
  obtain ⟨entry, found, rfl, rfl⟩ := ofRelation_eq_ok.mp reduced
  exact .single (agree found)

theorem labelled_of_ofHops (agree : KindsAgree grammar) {source : Option Origin} {hops : List Hop}
    (reduced : ofHops grammar source hops labels = .ok (plan, after)) :
    Labelled labels plan.origins after := by
  induction hops generalizing source labels plan with
  | nil =>
    obtain ⟨rfl, rfl⟩ := ofHops_nil_eq_ok.mp reduced
    exact .nil
  | cons hop rest ih =>
    obtain ⟨relation, second, targets, third, later, related, grouped, hopped, rfl⟩ :=
      ofHops_cons_eq_ok.mp reduced
    have run := ((labelled_of_ofRelation agree related).append
      (labelled_of_ofGroup agree grouped)).append (ih hopped)
    simpa only [origins_append, origins_ofLink, List.append_nil] using run

theorem labelled_of_ofTree (agree : KindsAgree grammar) {tree : Tree}
    (reduced : ofTree grammar tree labels = .ok (plan, after)) :
    Labelled labels plan.origins after := by
  obtain ⟨sources, middle, later, grouped, hopped, rfl⟩ := ofTree_eq_ok.mp reduced
  exact (labelled_of_ofGroup agree grouped).append (labelled_of_ofHops agree hopped)

theorem kindsAgree_ofTypes (schema : Schema) : KindsAgree (.ofTypes schema) :=
  fun found => kind_of_mem_entries (mem_entries_of_found found).1

theorem labelled_of_parseFrom {schema : Schema} {maxLength : Nat} {parser : Parser} {query : String}
    (assembled : Parser.ofSchema schema maxLength = .ok parser)
    (parsed : parser.parseFrom labels query = (.ok plan, after)) :
    Labelled labels plan.origins after := by
  obtain ⟨_, rfl⟩ := Parser.ofSchema_eq_ok.mp assembled
  obtain ⟨_, ⟨_, rfl, rfl⟩ | ⟨_, found, _, reduced⟩⟩ := Parser.parseFrom_eq_ok.mp parsed
  · exact .nil
  · exact labelled_of_ofTree (kindsAgree_ofTypes schema) reduced

theorem labelled_of_parse {schema : Schema} {maxLength : Nat} {parser : Parser} {query : String}
    (assembled : Parser.ofSchema schema maxLength = .ok parser)
    (parsed : parser.parse query = .ok plan) : ∃ after, Labelled .fresh plan.origins after := by
  obtain ⟨after, parsed⟩ := Parser.exists_parseFrom_iff.mp parsed
  exact ⟨after, labelled_of_parseFrom assembled parsed⟩

/-- The labels of a plan differ, those of one type count its occurrences from zero, and a label tells
what it is the label of. -/
theorem labels_of_parse {schema : Schema} {maxLength : Nat} {parser : Parser} {query : String}
    (assembled : Parser.ofSchema schema maxLength = .ok parser)
    (parsed : parser.parse query = .ok plan) :
    (plan.origins.map (·.label)).Nodup ∧
      (∀ kind id, (occurrences kind id plan.origins).map (·.label) =
        (List.range (occurrences kind id plan.origins).length).map (labelText kind id)) ∧
      ∀ kind id ordinal kind' id' ordinal',
        labelText kind id ordinal = labelText kind' id' ordinal' →
          kind = kind' ∧ id = id' ∧ ordinal = ordinal' := by
  obtain ⟨after, run⟩ := labelled_of_parse assembled parsed
  refine ⟨run.nodup, fun kind id => ?_, fun _ _ _ _ _ _ => labelText_injective⟩
  rw [List.range_eq_range']
  exact run.numbered kind id

theorem labels_of_parse_town :
    ∃ plan, Parser.townParser.parse "Person and People that likes the Person" = .ok plan ∧
      (plan.origins.map (·.label)).Nodup ∧
      (∀ kind id, (occurrences kind id plan.origins).map (·.label) =
        (List.range (occurrences kind id plan.origins).length).map (labelText kind id)) ∧
      ∀ kind id ordinal kind' id' ordinal',
        labelText kind id ordinal = labelText kind' id' ordinal' →
          kind = kind' ∧ id = id' ∧ ordinal = ordinal' := by
  obtain ⟨plan, parsed⟩ := Parser.exists_plan
    (show (Parser.townParser.parse
      "Person and People that likes the Person").toOption.isSome = true by decide +kernel)
  exact ⟨plan, parsed, labels_of_parse Parser.ofSchema_town parsed⟩

end Plan
end GraphQuery
