import GraphQuery.Proofs.Grammar.Forms
import GraphQuery.Proofs.Parsing
import GraphQuery.Proofs.Plan.Labels
import GraphQuery.Proofs.Query.Leads

/-! The name of a type alone is a query for its nodes.

A form of the first type is read to its end as a facet of that type, and no other type reads further. The one
thing in the way is what may stand before a name: a form that begins with properties of its own type and `of`
or `from` is read as asking for these properties of what follows. -/

set_option autoImplicit false

namespace GraphQuery

open Text Grammar Query Query.Matcher

/-! Normalization keeps single spaces. -/

namespace Query.Normalized

/-- The whole text is kept from every state in which it may be met. -/
structure Kept (within : Bool) (text : List Char) : Prop where
  word : ∀ column, within = true → (keep .word column text).map (·.char) = text
  start : ∀ column, within = false → (keep .start column text).map (·.char) = text
  gap : ∀ first column, within = false → (keep (.gap first) column text).map (·.char) = ' ' :: text
  literal : ∀ quote column, isQuote quote = true →
    (keep (.literal quote) column text).map (·.char) = text

theorem kept_of_singleSpaced {within : Bool} {text : List Char} (spaced : SingleSpaced within text) :
    Kept within text := by
  induction spaced with
  | nil => exact ⟨fun _ _ => rfl, nofun, nofun, fun _ _ _ => rfl⟩
  | @gap rest _ kept =>
    have space : isWhitespace ' ' = true := by decide
    refine ⟨fun column _ => ?_, nofun, nofun, fun quote column opens => ?_⟩
    · rw [keep, if_pos space, kept.gap column _ rfl]
    · have other : ' ' ≠ quote := by
        rintro rfl
        exact absurd opens (by decide)
      rw [keep, if_neg other, List.map_cons, kept.literal quote _ opens]
  | @char within c rest visible _ kept =>
    -- The word is kept whether its first character opens a literal or not.
    have first : ∀ column, (keep (.afterFirst c rest) column rest).map (·.char) = rest := by
      intro column
      unfold Reader.afterFirst
      split
      · next opens => exact kept.literal c column (Bool.and_eq_true_iff.mp opens).1
      · exact kept.word column rfl
    refine ⟨fun column _ => ?_, fun column _ => ?_, fun begin column _ => ?_, fun quote column opens => ?_⟩
    · simp [keep, visible, kept.word]
    · simp [keep, visible, first]
    · simp [keep, visible, first]
    · rw [keep, List.map_cons]
      split
      · rw [kept.word _ rfl]
      · rw [kept.literal quote _ opens]

theorem text_of_singleSpaced {text : List Char} (spaced : SingleSpaced false text) :
    (ofQuery text).text = text :=
  (kept_of_singleSpaced spaced).start 0 rfl

end Query.Normalized

/-! Reading a name. -/

namespace Text

theorem longest_cons_nil {α : Type} {value : α} {readings : List (Option (Reading α))} :
    longest (some (value, []) :: readings) = some (value, []) := by
  have kept : ∀ other : Option (Reading α),
      further (some (value, [])) other = some (value, []) := by
    rintro (_ | other) <;> rfl
  show readings.foldl further (some (value, [])) = _
  induction readings with
  | nil => rfl
  | cons other rest ih => rw [List.foldl_cons, kept, ih]

end Text

namespace Query

theorem conditions_read_nil {grammar : Grammar} {entry : TypeEntry} :
    (conditions grammar entry).read? [] = some ([], []) := by
  have ended : space.read? [] = none := space_refused rfl
  rw [conditions, read?_bind_of_eq_some (read?_optional_of_eq_none (read?_bind_of_eq_none ended))]
  rfl

section Form
variable {grammar : Grammar} {entry : TypeEntry} {others : List TypeEntry} {form : List Char}
  (sorted : LongestFirst entry.forms) (member : form ∈ entry.forms)
include sorted member

theorem read_nodeFacet_form (plain : (projection entry).accepts form = false) :
    (nodeFacet grammar entry).read? form = some (⟨entry.id, none, []⟩, []) := by
  have refused : (projection entry).read? form = none := by
    simpa [accepts_eq_isSome] using plain
  have name : (typeName entry).read? form = some ((), []) := by
    rw [typeName, read?_piece, readForm_self sorted member]
    rfl
  rw [nodeFacet, read?_bind_of_eq_some (read?_optional_of_eq_none refused), read?_bind_of_eq_some name,
    read?_bind_of_eq_some conditions_read_nil]
  rfl

/-- No type reads further than the first one, which reads to the end. -/
theorem read_tree_form (first : grammar.nodeEntries = entry :: others)
    (plain : (projection entry).accepts form = false) :
    (tree grammar).read? form = some (⟨[⟨entry.id, none, []⟩], []⟩, []) := by
  have facet : (anyNodeFacet grammar).read? form = some ((entry, ⟨entry.id, none, []⟩), []) := by
    rw [anyNodeFacet, read?_furthestOf, first, List.map_cons, List.map_cons,
      read?_bind_of_eq_some (read_nodeFacet_form sorted member plain)]
    exact longest_cons_nil
  have grouped : (group grammar).read? form = some ([⟨entry.id, none, []⟩], []) := by
    rw [group, read?_bind_of_eq_some facet]
    show ((joined (nodeFacet grammar entry)).many >>= _).read? [] = _
    rw [read?_bind_of_eq_some (read?_many_of_eq_none joined_refused_of_end)]
    rfl
  have hops : (hop grammar).many.read? [] = some ([], []) :=
    read?_many_of_eq_none (read?_bind_of_eq_none (space_refused rfl))
  rw [tree, read?_bind_of_eq_some grouped, read?_bind_of_eq_some hops]
  rfl

end Form

/-- The first facet of a tree was read by one of the types, behind the properties asked for. -/
theorem exists_first_facet {grammar : Grammar} {found : Tree} {text rest : List Char}
    (read : (tree grammar).read? text = some (found, rest)) :
    ∃ entry ∈ grammar.nodeEntries, ∃ keys middle clauses more,
      (projection entry).optional.read? text = some (keys, middle) ∧
        found.sources = ⟨entry.id, keys, clauses⟩ :: more := by
  simp only [tree, group, anyNodeFacet, read?_bind_eq_some, read?_furthestOf, read?_pure,
    Option.some.injEq, Prod.mk.injEq, Prod.exists] at read
  obtain ⟨sources, _, ⟨winner, first, middle, selected, more, _, _, rfl, _⟩, hops, _, _, _, _, _, rfl, _⟩ :=
    read
  obtain ⟨matcher, member, accepted⟩ := List.mem_map.mp (mem_of_longest selected)
  obtain ⟨entry, listed, rfl⟩ := List.mem_map.mp member
  simp only [nodeFacet, read?_bind_eq_some, read?_pure, Option.some.injEq, Prod.mk.injEq] at accepted
  obtain ⟨_, _, ⟨keys, before, projected, _, _, _, clauses, _, _, rfl, rfl⟩, ⟨rfl, rfl⟩, rfl⟩ := accepted
  exact ⟨entry, listed, keys, before, clauses, more, projected, rfl⟩

end Query

/-! The plan of a name. -/

def Plan.ofName (id : TypeId) : Plan where
  origins := [⟨id, .node, labelText .node id 0⟩]
  results := [⟨labelText .node id 0, none⟩]

namespace Plan

theorem ofTree_name {grammar : Grammar} {entry : TypeEntry} {others : List TypeEntry}
    (first : grammar.nodeEntries = entry :: others) (node : entry.kind = .node) :
    ∃ labels, ofTree grammar ⟨[⟨entry.id, none, []⟩], []⟩ .fresh = .ok (ofName entry.id, labels) := by
  have found : grammar.entry? .node entry.id = some entry := by
    rw [Grammar.entry?, entries, first]
    exact List.find?_cons_of_pos (beq_self_eq_true _)
  refine ⟨_, ofTree_eq_ok.mpr ⟨_, _, ∅,
    ofGroup_cons_eq_ok.mpr ⟨_, _, ∅, ofFacet_eq_ok.mpr ⟨entry, found, rfl, rfl⟩,
      ofGroup_nil_eq_ok.mpr ⟨rfl, rfl⟩, rfl⟩,
    ofHops_nil_eq_ok.mpr ⟨rfl, rfl⟩, ?_⟩⟩
  rw [mint_label, node]
  rfl

/-- The first facet of a tree heads the origins and the results of its plan. -/
theorem exists_head_of_ofTree {grammar : Grammar} {found : Tree} {facet : Facet} {more : List Facet}
    {labels after : Labels} {plan : Plan} (begins : found.sources = facet :: more)
    (reduced : ofTree grammar found labels = .ok (plan, after)) :
    ∃ label origins results, plan.origins = ⟨facet.typeId, .node, label⟩ :: origins ∧
      plan.results = ⟨label, facet.projection⟩ :: results := by
  obtain ⟨sources, middle, later, grouped, hopped, rfl⟩ := ofTree_eq_ok.mp reduced
  rw [begins] at grouped
  obtain ⟨first, _, rest, head, _, rfl⟩ := ofGroup_cons_eq_ok.mp grouped
  obtain ⟨entry, known, rfl, rfl⟩ := ofFacet_eq_ok.mp head
  rw [← (mem_entries_of_found known).2]
  exact ⟨_, _, _, rfl, rfl⟩

end Plan
namespace Parser
variable {schema : Schema} {type : NodeType} {others : List NodeType} {maxLength : Nat} {parser : Parser}
  {form : List Char}

/-- A form of the first type, alone, asks for all nodes of that type, unless it begins with properties of
the type and `of` or `from`. -/
theorem parse_form_iff (assembled : ofSchema schema maxLength = .ok parser)
    (first : schema.nodeTypes = type :: others) (listed : form ∈ (TypeEntry.ofType .node type).forms)
    (fits : form.length ≤ maxLength) :
    parser.parse (.ofList form) = .ok (.ofName type.id) ↔
      (projection (.ofType .node type)).accepts form = false := by
  obtain ⟨valid, rfl⟩ := ofSchema_eq_ok.mp assembled
  have declared : type ∈ schema.types .node := by
    rw [Schema.types, first]
    exact List.mem_cons_self
  have spaced : SingleSpaced false form := Schema.singleSpaced_of_mem_typeForms .node valid declared listed
  have text : (Normalized.ofQuery (String.ofList form).toList).text = form := by
    rw [String.toList_ofList, Normalized.text_of_singleSpaced spaced]
  have entries : (ofTypes schema).nodeEntries = .ofType .node type :: others.map (.ofType .node) := by
    rw [ofTypes, first, List.map_cons]
  rw [parse_eq_ok, text]
  constructor
  · rintro ⟨_, ⟨_, empty⟩ | ⟨_, found, labels, read, reduced⟩⟩
    · cases empty
    · rw [Bool.eq_false_iff]
      intro projects
      -- The first facet is of the type, and asks for the properties that the form begins with.
      obtain ⟨entry, member, keys, middle, clauses, more, projected, begins⟩ := exists_first_facet read
      obtain ⟨label, origins, results, origin, result⟩ := Plan.exists_head_of_ofTree begins reduced
      simp only [Plan.ofName, List.cons.injEq, Origin.mk.injEq, Selection.mk.injEq] at origin result
      obtain ⟨other, known, rfl⟩ := List.mem_map.mp member
      obtain rfl : other = type := List.inj_on_of_nodup_map (Schema.nodup_ids_of_validate valid .node)
        known declared origin.1.1.symm
      obtain ⟨found, rest, read⟩ := exists_read_of_accepts projects
      rw [read?_optional_of_eq_some read, ← result.1.2] at projected
      cases projected
  · intro plain
    obtain ⟨labels, reduced⟩ := Plan.ofTree_name entries rfl
    obtain ⟨c, rest, begins, _⟩ := spaced.exists_eq_cons
    refine ⟨by simpa using fits, .inr ⟨by simp [begins], _, labels, ?_, reduced⟩⟩
    exact read_tree_form (longestFirst_forms _ _) listed entries plain

theorem parse_form_iff_town :
    ∃ type others, townSchema.nodeTypes = type :: others ∧
      ofSchema townSchema defaultMaxLength = .ok townParser ∧
      "PEOPLE".toList ∈ (TypeEntry.ofType .node type).forms ∧
      (projection (.ofType .node type)).accepts "PEOPLE".toList = false ∧
      townParser.parse (.ofList "PEOPLE".toList) = .ok (.ofName type.id) := by
  obtain ⟨type, others, first, listed, plain⟩ : ∃ type others,
      townSchema.nodeTypes = type :: others ∧ "PEOPLE".toList ∈ (TypeEntry.ofType .node type).forms ∧
        (projection (.ofType .node type)).accepts "PEOPLE".toList = false :=
    ⟨_, _, rfl, by decide +kernel, by decide +kernel⟩
  exact ⟨type, others, first, ofSchema_town, listed, plain,
    (parse_form_iff ofSchema_town first listed (by decide)).mpr plain⟩

/-- The name of this type begins with its property and `of`. -/
def dateSchema : Schema where
  nodeTypes :=
    [{ id := 1, name := "Date of birth", pluralName := some "Dates of birth", properties := [⟨"date"⟩] }]

/-- What is asked for is then the date of something called `birth`, which is no type. -/
theorem exists_refused_name :
    ∃ parser, ofSchema dateSchema defaultMaxLength = .ok parser ∧
      "Date of birth".toList ∈ Grammar.forms "Date of birth".toList "Dates of birth".toList ∧
      parser.parse "Date of birth" =
        .error (.mismatch "unexpected 'birth', expected one of: 'the', \"Date of birth\"" 9
          ["'the'", "\"Date of birth\""]) :=
  ⟨.forTypes dateSchema defaultMaxLength, eq_ok_of_toOption (by decide +kernel), by decide +kernel,
    by decide +kernel⟩

end Parser
end GraphQuery
