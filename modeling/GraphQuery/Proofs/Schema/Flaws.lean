import GraphQuery.Proofs.Grammar.Assembly
import GraphQuery.Proofs.Grammar.Forms
import GraphQuery.Proofs.Text.Spacing

/-! Which schemas are refused, and for what.

What a schema has to meet is written down as a list of obligations, in the order in which a reader comes to
them, each with the flaw it is there to rule out. A schema that meets them all is accepted, and any other is
refused for the first one that it misses, however many there are. -/

set_option autoImplicit false

namespace GraphQuery.Schema

open Text

/-- Something that has to hold, and the flaw that is reported if it does not. -/
structure Obligation where
  holds : Prop
  flaw : Flaw

def FirstMissed (obligations : List Obligation) (flaw : Flaw) : Prop :=
  ∃ before missed after, obligations = before ++ missed :: after ∧
    (∀ earlier ∈ before, earlier.holds) ∧ ¬missed.holds ∧ missed.flaw = flaw

/-- The obligations of each item, in view of the items before it. -/
def inTurn {α : Type} (obligations : List α → α → List Obligation) (earlier : List α) :
    List α → List Obligation
  | [] => []
  | item :: later => obligations earlier item ++ inTurn obligations (earlier ++ [item]) later

/-! What there is to be met. -/

def wordObligations (place : WordPlace) (word : String) : List Obligation :=
  [⟨∃ c ∈ word.toList, isWhitespace c = false, .emptyWord place⟩,
   ⟨WellSpaced word.toList, .looseWord place word⟩]

def keyObligations (kind : Kind) (id : TypeId) (earlier : List Property) (property : Property) :
    List Obligation :=
  wordObligations (.key kind id) property.key ++
    [⟨property.key ∉ earlier.map (·.key), .repeatedKey kind id property.key⟩]

def wordsObligations (kind : Kind) (type : NodeType) : List Obligation :=
  wordObligations (.name kind type.id) type.name ++
    (type.pluralName.toList.flatMap (wordObligations (.plural kind type.id)) ++
      inTurn (keyObligations kind type.id) [] type.properties)

def typeObligations (kind : Kind) (earlier : List NodeType) (type : NodeType) : List Obligation :=
  ⟨type.id ∉ earlier.map (·.id), .repeatedId kind type.id⟩ :: wordsObligations kind type

def endpointObligation (nodeIds : List TypeId) (type : RelationshipType) (endpoint : TypeId) :
    Obligation :=
  ⟨endpoint ∈ nodeIds, .unknownEndpoint type.name endpoint⟩

def relationshipObligations (nodeIds : List TypeId) (earlier : List RelationshipType)
    (type : RelationshipType) : List Obligation :=
  typeObligations .relationship (earlier.map (·.toNodeType)) type.toNodeType ++
    [endpointObligation nodeIds type type.source, endpointObligation nodeIds type type.target]

def obligations (schema : Schema) : List Obligation :=
  inTurn (typeObligations .node) [] schema.nodeTypes ++
    inTurn (relationshipObligations (schema.nodeTypes.map (·.id))) [] schema.relationshipTypes

structure SoundType (type : NodeType) : Prop where
  name : WellSpaced type.name.toList
  plural : ∀ plural ∈ type.pluralName, WellSpaced plural.toList
  keys : ∀ property ∈ type.properties, WellSpaced property.key.toList
  distinct : (type.properties.map (·.key)).Nodup

structure Sound (schema : Schema) : Prop where
  ids : ∀ kind, ((schema.types kind).map (·.id)).Nodup
  types : ∀ kind, ∀ type ∈ schema.types kind, SoundType type
  endpoints : ∀ type ∈ schema.relationshipTypes,
    type.source ∈ schema.nodeTypes.map (·.id) ∧ type.target ∈ schema.nodeTypes.map (·.id)

/-! A check passes if all of its obligations hold, and otherwise reports the first that does not. -/

def Settles (outcome : Except Flaw Unit) (obligations : List Obligation) : Prop :=
  match outcome with
  | .ok () => ∀ obligation ∈ obligations, obligation.holds
  | .error flaw => FirstMissed obligations flaw

section Settling
variable {outcome check next : Except Flaw Unit} {first second : List Obligation} {flaw : Flaw}

theorem not_firstMissed_of_holds (all : ∀ obligation ∈ first, obligation.holds) :
    ¬FirstMissed first flaw := by
  rintro ⟨before, missed, after, rfl, _, fails, _⟩
  exact fails (all missed (by simp))

theorem firstMissed_cons {holds : Prop} (fails : ¬holds) : FirstMissed (⟨holds, flaw⟩ :: first) flaw :=
  ⟨[], _, first, rfl, by simp, fails, rfl⟩

theorem FirstMissed.unique {other : Flaw} (missed : FirstMissed first flaw)
    (missed' : FirstMissed first other) : flaw = other := by
  obtain ⟨before, here, after, rfl, held, fails, rfl⟩ := missed
  obtain ⟨before', there, after', same, held', fails', rfl⟩ := missed'
  -- Neither of the two stands before the other.
  rcases List.append_eq_append_iff.mp same with ⟨more, rfl, split⟩ | ⟨more, rfl, split⟩
  · cases more with
    | nil => simp_all
    | cons d more =>
      obtain ⟨rfl, _⟩ := List.cons.inj split
      exact absurd (held' here (by simp)) fails
  · cases more with
    | nil => simp_all
    | cons d more =>
      obtain ⟨rfl, _⟩ := List.cons.inj split
      exact absurd (held there (by simp)) fails'

theorem Settles.ok_iff (settles : Settles outcome first) :
    outcome = .ok () ↔ ∀ obligation ∈ first, obligation.holds := by
  cases outcome with
  | ok => exact ⟨fun _ => settles, fun _ => rfl⟩
  | error flaw => exact ⟨nofun, fun all => absurd settles (not_firstMissed_of_holds all)⟩

theorem Settles.error_iff (settles : Settles outcome first) :
    outcome = .error flaw ↔ FirstMissed first flaw := by
  cases outcome with
  | ok => exact ⟨nofun, fun missed => absurd missed (not_firstMissed_of_holds settles)⟩
  | error other =>
    constructor
    · rintro ⟨⟩
      exact settles
    · intro missed
      rw [FirstMissed.unique settles missed]

theorem settles_nil : Settles (.ok ()) [] := by
  simp [Settles]

theorem Settles.bind (head : Settles check first) (tail : Settles next second) :
    Settles (check >>= fun _ => next) (first ++ second) := by
  cases check with
  | error flaw =>
    obtain ⟨before, missed, after, rfl, held, fails, same⟩ := head
    exact ⟨before, missed, after ++ second, by simp, held, fails, same⟩
  | ok =>
    cases next with
    | ok => exact List.forall_mem_append.mpr ⟨head, tail⟩
    | error flaw =>
      obtain ⟨before, missed, after, rfl, held, fails, same⟩ := tail
      exact ⟨first ++ before, missed, after, by simp, List.forall_mem_append.mpr ⟨head, held⟩, fails,
        same⟩

theorem Settles.guard {β : Type} {condition holds : Prop} [Decidable condition]
    (meets : holds ↔ ¬condition) (tail : Settles next second) :
    Settles (if condition then (throw flaw : Except Flaw β) >>= fun _ => next else next)
      (⟨holds, flaw⟩ :: second) := by
  split
  · next fails => exact firstMissed_cons fun holds => meets.mp holds fails
  · next passes =>
    have met : Settles (.ok ()) [⟨holds, flaw⟩] := by
      simpa [Settles] using meets.mpr passes
    exact met.bind tail

/-- A scan that keeps in mind what it has seen, under a name for each item. -/
theorem settles_inTurn {α κ : Type} (name : α → κ) {obligations : List α → α → List Obligation}
    {scan : List κ → List α → Except Flaw Unit}
    (ends : ∀ seen, scan seen [] = .ok ())
    (goes : ∀ {seen earlier} item later {rest}, (∀ key, key ∈ seen ↔ key ∈ earlier.map name) →
      Settles (scan (name item :: seen) later) rest →
        Settles (scan seen (item :: later)) (obligations earlier item ++ rest))
    {seen : List κ} {earlier items : List α} (same : ∀ key, key ∈ seen ↔ key ∈ earlier.map name) :
    Settles (scan seen items) (inTurn obligations earlier items) := by
  -- On the items. What the scan has in mind are the names of those before.
  induction items generalizing seen earlier with
  | nil =>
    rw [ends]
    exact settles_nil
  | cons item later ih =>
    refine goes item later same (ih fun key => ?_)
    simp only [List.mem_cons, List.map_append, List.mem_append, List.map_cons, List.map_nil,
      List.not_mem_nil, or_false, same key]
    exact or_comm

end Settling

/-! The checks of a schema, from the words up. -/

theorem tidy_iff_wellSpaced {word : String} : Tidy word ↔ WellSpaced word.toList := by
  rw [← singleSpaced_iff_wellSpaced]
  constructor
  · exact singleSpaced_of_tidy
  · intro spaced
    obtain ⟨collapsed, nonempty⟩ := collapse_of_singleSpaced spaced
    exact ⟨nonempty, collapsed⟩

theorem settles_checkWord (place : WordPlace) (word : String) :
    Settles (checkWord place word) (wordObligations place word) := by
  unfold checkWord
  split
  · next empty =>
    refine firstMissed_cons ?_
    simpa using trim_eq_nil_iff.mp empty
  · next filled =>
    have visible : ∃ c ∈ word.toList, isWhitespace c = false := by
      simpa using mt trim_eq_nil_iff.mpr filled
    split
    · next loose =>
      exact ⟨[_], _, [], rfl, by simpa using visible,
        fun spaced => loose (tidy_iff_wellSpaced.mpr spaced).2, rfl⟩
    · next tidy =>
      have spaced := tidy_iff_wellSpaced.mp ⟨filled, not_not.mp tidy⟩
      simpa [Settles, wordObligations, pure, Except.pure] using And.intro visible spaced

theorem settles_checkKeys (kind : Kind) (id : TypeId) (properties : List Property) :
    Settles (checkKeys kind id [] properties) (inTurn (keyObligations kind id) [] properties) := by
  refine settles_inTurn Property.key (fun _ => rfl) ?_ (by simp)
  intro seen earlier property later rest same settled
  rw [checkKeys, keyObligations, List.append_assoc]
  refine (settles_checkWord _ _).bind (.guard ?_ settled)
  exact not_congr (same property.key).symm

theorem settles_checkWords (kind : Kind) (type : NodeType) :
    Settles (checkWords kind type) (wordsObligations kind type) := by
  have keys := settles_checkKeys kind type.id type.properties
  unfold checkWords wordsObligations
  refine (settles_checkWord _ _).bind ?_
  cases type.pluralName with
  | none => exact keys
  | some plural => simpa using (settles_checkWord _ plural).bind keys

theorem settles_checkNodeTypes (types : List NodeType) :
    Settles (checkNodeTypes [] types) (inTurn (typeObligations .node) [] types) := by
  refine settles_inTurn NodeType.id (fun _ => rfl) ?_ (by simp)
  intro seen earlier type later rest same settled
  rw [checkNodeTypes, typeObligations, List.cons_append]
  refine .guard ?_ ((settles_checkWords _ _).bind settled)
  exact not_congr (same type.id).symm

theorem settles_checkEndpoint (nodeIds : List TypeId) (type : RelationshipType) (endpoint : TypeId) :
    Settles (checkEndpoint nodeIds type endpoint) [endpointObligation nodeIds type endpoint] := by
  unfold checkEndpoint
  split
  · next known => simpa [Settles, endpointObligation, pure, Except.pure] using known
  · next unknown => exact firstMissed_cons unknown

theorem settles_checkRelationshipTypes (nodeIds : List TypeId) (types : List RelationshipType) :
    Settles (checkRelationshipTypes nodeIds [] types)
      (inTurn (relationshipObligations nodeIds) [] types) := by
  refine settles_inTurn (fun type : RelationshipType => type.id) (fun _ => rfl) ?_ (by simp)
  intro seen earlier type later rest same settled
  rw [checkRelationshipTypes, relationshipObligations, typeObligations]
  simp only [List.cons_append, List.append_assoc]
  refine .guard ?_ ((settles_checkWords _ _).bind ?_)
  · simpa [Function.comp_def] using not_congr (same type.id).symm
  · exact (settles_checkEndpoint _ _ _).bind ((settles_checkEndpoint _ _ _).bind settled)

theorem settles_validate (schema : Schema) : Settles schema.validate schema.obligations :=
  (settles_checkNodeTypes schema.nodeTypes).bind
    (settles_checkRelationshipTypes _ schema.relationshipTypes)

/-! The schemas that pass. -/

theorem checkWords_eq_ok_iff_soundType {kind : Kind} {type : NodeType} :
    checkWords kind type = .ok () ↔ SoundType type := by
  simp only [checkWords_eq_ok, tidy_iff_wellSpaced]
  constructor
  · rintro ⟨name, plural, keys, distinct⟩
    exact ⟨name, plural, keys, distinct⟩
  · rintro ⟨name, plural, keys, distinct⟩
    exact ⟨name, plural, keys, distinct⟩

theorem fresh_nil_iff {ids : List TypeId} : Fresh [] ids ↔ ids.Nodup := by
  simp [Fresh]

theorem map_id_types_relationship (schema : Schema) :
    (schema.types .relationship).map (·.id) = schema.relationshipTypes.map (·.id) := by
  simp [types, Function.comp_def]

theorem validate_eq_ok_iff_sound {schema : Schema} : schema.validate = .ok () ↔ Sound schema := by
  rw [validate_eq_ok, checkNodeTypes_eq_ok, checkRelationshipTypes_eq_ok]
  simp only [checkWords_eq_ok_iff_soundType, fresh_nil_iff, ← map_id_types_relationship]
  constructor
  · rintro ⟨⟨nodeIds, nodes⟩, relationshipIds, relationships⟩
    refine ⟨?_, ?_, fun type member => (relationships type member).2⟩
    · rintro (_ | _)
      · exact nodeIds
      · exact relationshipIds
    · rintro (_ | _)
      · exact nodes
      · exact List.forall_mem_map.mpr fun type member => (relationships type member).1
  · rintro ⟨ids, sound, endpoints⟩
    refine ⟨⟨ids .node, sound .node⟩, ids .relationship, fun type member => ⟨?_, endpoints type member⟩⟩
    exact sound .relationship _ (List.mem_map_of_mem member)

/-- A sound schema meets all obligations, in whichever order they are taken. -/
theorem sound_iff_obligations {schema : Schema} :
    Sound schema ↔ ∀ obligation ∈ schema.obligations, obligation.holds :=
  validate_eq_ok_iff_sound.symm.trans (settles_validate schema).ok_iff

/-- A schema is accepted just if it is sound, and refused for the first obligation that it misses. This is the
flaw that the message of the failure tells of. -/
theorem outcome_of_validate (schema : Schema) :
    (schema.validate = .ok () ↔ Sound schema) ∧
      (∀ flaw, schema.validate = .error flaw ↔ FirstMissed schema.obligations flaw) ∧
        ∀ maxLength text, Parser.ofSchema schema maxLength = .error (.inconsistentSchema text) ↔
          ∃ flaw, FirstMissed schema.obligations flaw ∧ flaw.message = text := by
  have refused : ∀ flaw, schema.validate = .error flaw ↔ FirstMissed schema.obligations flaw :=
    fun flaw => (settles_validate schema).error_iff
  refine ⟨validate_eq_ok_iff_sound, refused, fun maxLength text => ?_⟩
  constructor
  · intro failed
    cases checked : schema.validate with
    | ok =>
      rw [Parser.ofSchema_of_valid checked] at failed
      cases failed
    | error flaw =>
      rw [Parser.ofSchema_of_flaw checked] at failed
      cases failed
      exact ⟨flaw, (refused flaw).mp checked, rfl⟩
  · rintro ⟨flaw, missed, rfl⟩
    exact Parser.ofSchema_of_flaw ((refused flaw).mpr missed) maxLength


/-- Four obligations are missed here, and the key is the first of them in reading order. -/
example : validate
    { nodeTypes := [{ id := 1, name := "City", properties := [⟨"post  code"⟩] },
        { id := 1, name := "" }]
      relationshipTypes := [{ id := 1, name := "In", source := 1, target := 2 }] } =
    .error (.looseWord (.key .node 1) "post  code") := by
  rfl

end GraphQuery.Schema
