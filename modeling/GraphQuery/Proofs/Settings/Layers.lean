import GraphQuery.Proofs.Outcomes
import GraphQuery.Proofs.Settings.Keys
import GraphQuery.Proofs.Settings.Node
import Mathlib.Data.List.Induction

/-! Where the value of each setting comes from.

The variable of a setting counts before the file, and the file before the built-in value. The name of the
variable is `SYLVA__<SECTION>__<KEY>`. With a single underscore behind the prefix it sets nothing. -/

set_option autoImplicit false

namespace GraphQuery.Settings

open Node

inductive Setting where
  | bind
  | maxLength
  | directory
  | filter
  deriving DecidableEq, Repr

namespace Setting

def area : Setting → String
  | .bind => "server"
  | .maxLength => "query"
  | .directory => "schemas"
  | .filter => "log"

def key : Setting → String
  | .bind => "bind"
  | .maxLength => "max_length"
  | .directory => "directory"
  | .filter => "filter"

def builtIn : Setting → Node
  | .bind => .text "127.0.0.1:8080"
  | .maxLength => .integer Parser.defaultMaxLength
  | .directory => .text "schemas"
  | .filter => .text "info"

def path (setting : Setting) : List Step :=
  [.key setting.area, .key setting.key]

/-! The layers. -/

/-- The names of the variables of a setting, in lowercase. A point may stand for the second pair of
underscores. -/
def variableNames (setting : Setting) : List (List Char) :=
  ["__", "."].map fun joint => ("sylva__" ++ setting.area ++ joint ++ setting.key).toList

def documentedName (setting : Setting) : List Char :=
  ("sylva_" ++ setting.area ++ "__" ++ setting.key).toList

/-- The value of a setting's variable. Of several that differ in letter case the last one counts. -/
def given? (setting : Setting) (environment : List (String × String)) : Option String :=
  (environment.filter fun entry =>
    setting.variableNames.contains (Text.lowercase entry.1.toList)).getLast?.map (·.2)

def touched (setting : Setting) (environment : List (String × String)) : Bool :=
  environment.any fun entry => (variableKey? entry.1).any fun key =>
    (Step.pathOf key).head? = some (.key setting.area)

def areaIn? (setting : Setting) (tree : Node) (environment : List (String × String)) : Option Node :=
  if setting.touched environment then some (.table (find setting.area tree.entries).entries)
  else tree.entries.lookup setting.area

/-- What is taken for a setting: the value of its variable, otherwise what the file says, otherwise the
built-in value. A section may be a list that begins with the value. -/
def node? (setting : Setting) (tree : Node) (environment : List (String × String)) : Option Node :=
  match setting.given? environment with
  | some value => some (.text value)
  | none =>
    match setting.areaIn? tree environment with
    | none => some setting.builtIn
    | some (.table entries) => some ((entries.lookup setting.key).getD setting.builtIn)
    | some other => other.only? setting.key

end Setting

def File.members? : File → Option (List (String × Json))
  | .none | .missing => Option.none
  | .found name content =>
    match fileStem? "json" name, content.anyText? with
    | some _, some written =>
      match Json.ofText? written with
      | .ok (.object members) => some members
      | _ => Option.none
    | _, _ => Option.none

def File.tree? (file : File) : Option Node :=
  file.values?.map (overlayAll (.table []))

/-- Of the sections of the settings the variables set entries only, and of the settings no parts. -/
def Fits (environment : List (String × String)) : Prop :=
  ∀ entry ∈ environment, ∀ key ∈ variableKey? entry.1, ∀ (setting : Setting) (rest : List Step),
    Step.pathOf key = .key setting.area :: rest →
      ∃ name more, rest = .key name :: more ∧ (name = setting.key → more = [])

/-! Names of variables. -/

theorem variableKey_of_named {setting : Setting} {name : String}
    (named : Text.lowercase name.toList ∈ setting.variableNames) :
    ∃ key, variableKey? name = some key ∧ Step.pathOf key = setting.path := by
  rcases List.mem_pair.mp named with same | same
  all_goals
    cases setting <;> exact ⟨_, variableKey_of_lowercase same, by decide +kernel⟩

theorem named_iff {setting : Setting} {name : String} :
    Text.lowercase name.toList ∈ setting.variableNames ↔
      ∃ key, variableKey? name = some key ∧ Step.pathOf key = setting.path := by
  refine ⟨variableKey_of_named, ?_⟩
  rintro ⟨key, read, path⟩
  obtain ⟨rest, begun, same⟩ := lowercase_of_variableKey read
  rw [toList_of_pathOf path] at same
  have solid : '.' ∉ setting.area.toList ∧ '.' ∉ setting.key.toList := by
    cases setting <;> decide
  rw [begun]
  rcases text_of_dotted solid.1 solid.2 same with rfl | rfl
  all_goals cases setting <;> decide

/-- A variable with the documented name sets nothing. -/
theorem variableKey_of_documented {setting : Setting} {name : String}
    (named : Text.lowercase name.toList = setting.documentedName) : variableKey? name = none := by
  rw [variableKey?, named]
  cases setting <;> decide

/-! What the environment sets. -/

section Environment
variable {setting : Setting} {entry : String × String} {environment : List (String × String)}

theorem given?_concat : setting.given? (environment ++ [entry]) =
    if Text.lowercase entry.1.toList ∈ setting.variableNames then some entry.2
    else setting.given? environment := by
  unfold Setting.given?
  by_cases named : Text.lowercase entry.1.toList ∈ setting.variableNames <;> simp [named]

theorem touched_concat : setting.touched (environment ++ [entry]) = (setting.touched environment ||
    (variableKey? entry.1).any fun key => (Step.pathOf key).head? = some (.key setting.area)) := by
  simp [Setting.touched]

theorem ofEnvironment_concat : ofEnvironment (environment ++ [entry]) = ofEnvironment environment ++
    ((variableKey? entry.1).map fun key => (key, Node.text entry.2)).toList := by
  simp only [ofEnvironment, List.filterMap_append, List.filterMap_cons, List.filterMap_nil]
  cases variableKey? entry.1 <;> rfl

theorem overlayAll_concat (below : Node) (values : List (String × Node)) (key : String) (value : Node) :
    overlayAll below (values ++ [(key, value)]) =
      (overlayAll below values).overlayAt (Step.pathOf key) value := by
  simp [overlayAll]

structure Laid (setting : Setting) (tree : Node) (environment : List (String × String)) (laid : Node) :
    Prop where
  area : laid.entries.lookup setting.area =
    if setting.touched environment then some (.table (find setting.area laid.entries).entries)
    else tree.entries.lookup setting.area
  key : (find setting.area laid.entries).entries.lookup setting.key =
    ((setting.given? environment).map Node.text).or
      ((find setting.area tree.entries).entries.lookup setting.key)

variable {tree laid : Node} {key name : String} {rest : List Step} {value : Node}

theorem entries_overlayAt_key (node : Node) : (node.overlayAt (.key name :: rest) value).entries =
    put name ((find name node.entries).overlayAt rest value) node.entries := rfl

theorem Laid.elsewhere (holds : Laid setting tree environment laid) (other : name ≠ setting.area)
    (read : variableKey? entry.1 = some key) (path : Step.pathOf key = .key name :: rest) :
    Laid setting tree (environment ++ [entry]) (laid.overlayAt (.key name :: rest) value) := by
  have same : find setting.area (laid.overlayAt (.key name :: rest) value).entries =
      find setting.area laid.entries := by
    rw [entries_overlayAt_key, find_put, if_neg other.symm]
  have unnamed : Text.lowercase entry.1.toList ∉ setting.variableNames := by
    simp [named_iff, read, path, Setting.path, other]
  have untouched : setting.touched (environment ++ [entry]) = setting.touched environment := by
    simp [touched_concat, read, path, other]
  constructor
  · rw [same, untouched, ← holds.area, entries_overlayAt_key, lookup_put, if_neg other.symm]
  · rw [same, given?_concat, if_neg unnamed, holds.key]

theorem Laid.here (holds : Laid setting tree environment laid) (read : variableKey? entry.1 = some key)
    (path : Step.pathOf key = .key setting.area :: .key name :: rest)
    (whole : name = setting.key → rest = []) :
    Laid setting tree (environment ++ [entry])
      (laid.overlayAt (.key setting.area :: .key name :: rest) (.text entry.2)) := by
  have set : (laid.overlayAt (.key setting.area :: .key name :: rest) (.text entry.2)).entries =
      put setting.area (.table (put name
        ((find name (find setting.area laid.entries).entries).overlayAt rest (.text entry.2))
          (find setting.area laid.entries).entries)) laid.entries := rfl
  have touched : setting.touched (environment ++ [entry]) = true := by
    simp [touched_concat, read, path]
  constructor
  · rw [touched, if_pos rfl, set, find_put, if_pos rfl, lookup_put, if_pos rfl, Node.entries]
  · rw [set, find_put, if_pos rfl, Node.entries, lookup_put, given?_concat]
    -- The setting itself has its value from now on, and another entry leaves it alone.
    by_cases same : name = setting.key
    · have named := named_iff.mpr ⟨key, read, by rw [path, whole same, same]; rfl⟩
      rw [if_pos same.symm, if_pos named, whole same]
      simp [overlayAt, overlay]
    · have unnamed : Text.lowercase entry.1.toList ∉ setting.variableNames := by
        simp [named_iff, read, path, Setting.path, same]
      rw [if_neg (Ne.symm same), if_neg unnamed, holds.key]

theorem laid_of_fits (fits : Fits environment) (setting : Setting) (tree : Node) :
    Laid setting tree environment (overlayAll tree (ofEnvironment environment)) := by
  -- On the variables, the last of which is laid over all others.
  induction environment using List.reverseRecOn with
  | nil => exact ⟨rfl, rfl⟩
  | append_singleton environment entry ih =>
    have holds := ih fun other member => fits other (List.mem_append_left _ member)
    rw [ofEnvironment_concat]
    cases read : variableKey? entry.1 with
    | none =>
      have unnamed : Text.lowercase entry.1.toList ∉ setting.variableNames := by
        simp [named_iff, read]
      have untouched : setting.touched (environment ++ [entry]) = setting.touched environment := by
        simp [touched_concat, read]
      rw [Option.map_none, Option.toList_none, List.append_nil]
      refine ⟨?_, ?_⟩
      · rw [untouched, holds.area]
      · rw [given?_concat, if_neg unnamed, holds.key]
    | some key =>
      obtain ⟨name, rest, path⟩ := exists_pathOf key
      rw [Option.map_some, Option.toList_some, overlayAll_concat, path]
      by_cases here : name = setting.area
      · subst here
        obtain ⟨name, more, rfl, whole⟩ :=
          fits entry (List.mem_append_right _ List.mem_cons_self) key read setting rest path
        exact holds.here read path whole
      · exact holds.elsewhere here read path

end Environment

/-! Laid over the built-in values. -/

theorem exists_overlayAll_table (below : List (String × Node)) (values : List (String × Node)) :
    ∃ entries, overlayAll (.table below) values = .table entries := by
  induction values generalizing below with
  | nil => exact ⟨below, rfl⟩
  | cons value rest ih =>
    obtain ⟨name, more, path⟩ := exists_pathOf value.1
    rw [overlayAll, List.foldl_cons, path]
    exact ih _

theorem distinct_overlayAll {below : Node} {values : List (String × Node)} (distinct : below.Distinct)
    (each : ∀ value ∈ values, value.2.Distinct) : (overlayAll below values).Distinct := by
  induction values generalizing below with
  | nil => exact distinct
  | cons value rest ih =>
    obtain ⟨first, others⟩ := List.forall_mem_cons.mp each
    exact ih (distinct.overlayAt first _) others

theorem distinct_tree {file : File} {tree : Node} (readable : file.tree? = some tree) :
    tree.Distinct := by
  obtain ⟨values, read, rfl⟩ := Option.map_eq_some_iff.mp readable
  refine distinct_overlayAll distinct_empty ?_
  cases file with
  | none =>
    cases read
    simp
  | missing => cases read
  | found name content =>
    simp only [File.values?] at read
    split at read
    · unfold ofText? at read
      split at read
      · cases read
        exact (distinct_entriesOfMembers _ distinct_empty).values
      · cases read
    · cases read

theorem overlayAll_defaults : overlayAll (.table []) defaults = .table
    [(Setting.bind.area, .table [(Setting.bind.key, Setting.bind.builtIn)]),
     (Setting.maxLength.area, .table [(Setting.maxLength.key, Setting.maxLength.builtIn)]),
     (Setting.directory.area, .table [(Setting.directory.key, Setting.directory.builtIn)]),
     (Setting.filter.area, .table [(Setting.filter.key, Setting.filter.builtIn)])] := by
  have bind : Step.pathOf "server.bind" = Setting.bind.path := by decide +kernel
  have maxLength : Step.pathOf "query.max_length" = Setting.maxLength.path := by decide +kernel
  have directory : Step.pathOf "schemas.directory" = Setting.directory.path := by decide +kernel
  have filter : Step.pathOf "log.filter" = Setting.filter.path := by decide +kernel
  simp only [overlayAll, defaults, List.foldl_cons, List.foldl_nil, bind, maxLength, directory, filter]
  simp [Setting.path, Setting.area, Setting.key, Setting.builtIn, overlayAt, overlay, put, find,
    entries, lookup_cons_eq]

theorem lookup_defaults (setting : Setting) : (overlayAll (.table []) defaults).entries.lookup setting.area =
    some (.table [(setting.key, setting.builtIn)]) := by
  rw [overlayAll_defaults]
  cases setting <;> simp [Setting.area, entries, lookup_cons_eq]

theorem value?_eq_bind (root : Node) (area key : String) :
    value? root area key = (root.entries.lookup area).bind (·.only? key) := rfl

section Read
variable {α : Type} {read? : Node → Option α} {setting : Setting} {tree : Node}
  {environment : List (String × String)} {entries : List (String × Node)}

/-- What lies under a value makes no difference to a reader of texts and numbers. -/
def Reads (read? : Node → Option α) : Prop :=
  ∀ below value : Node, read? (below.overlay value) = read? value

theorem Laid.given_eq_none (holds : Laid setting tree environment (.table entries))
    (empty : (find setting.area entries).entries = []) : setting.given? environment = none := by
  have key := holds.key
  rw [Node.entries, empty] at key
  cases given : setting.given? environment with
  | none => rfl
  | some value => simp [given] at key

theorem Laid.areaIn_eq (holds : Laid setting tree environment (.table entries))
    (flat : ∀ inside, entries.lookup setting.area ≠ some (.table inside)) :
    setting.areaIn? tree environment = entries.lookup setting.area := by
  have area := holds.area
  unfold Setting.areaIn?
  cases touched : setting.touched environment with
  | true =>
    rw [touched, if_pos rfl] at area
    exact absurd area (flat _)
  | false =>
    rw [touched] at area
    exact area.symm

theorem Laid.exists_areaIn (holds : Laid setting tree environment (.table entries))
    (unset : setting.given? environment = none) {inside : List (String × Node)}
    (here : find setting.area entries = .table inside) :
    ∃ own, setting.areaIn? tree environment = some (.table own) ∧
      own.lookup setting.key = inside.lookup setting.key := by
  have area := holds.area
  have key := holds.key
  rw [Node.entries, here, Node.entries, unset, Option.map_none, Option.none_or] at key
  unfold Setting.areaIn?
  -- A section that the environment leaves alone is as the file has it.
  cases touched : setting.touched environment with
  | true => exact ⟨_, rfl, key.symm⟩
  | false =>
    rw [touched, Node.entries] at area
    have found : entries.lookup setting.area = some (.table inside) := by
      cases found : entries.lookup setting.area with
      | none => simp [find, found] at here
      | some node =>
        rw [find, found, Option.getD_some] at here
        rw [here]
    exact ⟨inside, area.symm.trans found, rfl⟩

theorem Laid.read_table (reads : Reads read?) (holds : Laid setting tree environment (.table entries))
    (distinct : Distinct (.table entries)) {inside : List (String × Node)}
    (here : find setting.area entries = .table inside) :
    ((((Node.table [(setting.key, setting.builtIn)]).overlay (.table inside)).only? setting.key).bind read?) =
      (setting.node? tree environment).bind read? := by
  have keys : (inside.map (·.1)).Nodup := (here ▸ distinct.find setting.area).keys
  have built : find setting.key [(setting.key, setting.builtIn)] = setting.builtIn := by
    rw [find, lookup_cons_eq, if_pos rfl, Option.getD_some]
  rw [overlay, only?, Node.entries, lookup_overlayEntries keys, built, lookup_cons_eq, if_pos rfl]
  -- A variable comes first. Without one it is what the file says, or else the built-in value.
  cases given : setting.given? environment with
  | some value =>
    have key := holds.key
    rw [Node.entries, here, Node.entries, given] at key
    simp [Setting.node?, given, key, reads setting.builtIn]
  | none =>
    obtain ⟨own, area, key⟩ := holds.exists_areaIn given here
    simp only [Setting.node?, given, area, key]
    cases inside.lookup setting.key with
    | none => rfl
    | some value => exact reads setting.builtIn value

/-- A setting is read from the layers as from the node that is taken for it. -/
theorem read_value?_eq (reads : Reads read?) (holds : Laid setting tree environment (.table entries))
    (distinct : Distinct (.table entries)) :
    (value? ((overlayAll (.table []) defaults).overlay (.table entries)) setting.area setting.key).bind read? =
      (setting.node? tree environment).bind read? := by
  have under : find setting.area (overlayAll (.table []) defaults).entries =
      .table [(setting.key, setting.builtIn)] := by
    rw [find, lookup_defaults, Option.getD_some]
  rw [value?_eq_bind, overlay, Node.entries, lookup_overlayEntries distinct.keys, lookup_defaults, under]
  cases found : entries.lookup setting.area with
  | none =>
    have absent := holds.given_eq_none (by rw [find, found]; rfl)
    have area := holds.areaIn_eq (by simp [found])
    simp [Setting.node?, absent, area, found, only?]
  | some node =>
    have here : find setting.area entries = node := by rw [find, found, Option.getD_some]
    cases node with
    | table inside => exact holds.read_table reads distinct here
    -- Whatever is no table takes the place of the built-in section.
    | nothing | flag | integer | decimal | text | list =>
      have absent := holds.given_eq_none (by rw [here]; rfl)
      have area := holds.areaIn_eq (by simp [found])
      simp [Setting.node?, absent, area, found, overlay]

end Read

/-! Loading. -/

theorem overlayAll_append (below : Node) (values others : List (String × Node)) :
    overlayAll below (values ++ others) = overlayAll (overlayAll below values) others :=
  List.foldl_append

def layers (tree : Node) (environment : List (String × String)) : Node :=
  (overlayAll (.table []) defaults).overlay (overlayAll tree (ofEnvironment environment))

theorem load?_eq (file : File) (environment : List (String × String)) :
    load? file environment = file.tree?.bind fun tree => ofNode? (layers tree environment) := by
  unfold load? File.tree?
  cases file.values? with
  | none => rfl
  | some values => exact congrArg (fun given => ofNode? (Node.overlay _ given)) (overlayAll_append ..)

theorem load_eq_ok_iff {file : File} {environment : List (String × String)} {settings : Settings} :
    load file environment = .ok settings ↔
      ∃ tree, file.tree? = some tree ∧ ofNode? (layers tree environment) = some settings := by
  rw [← Option.bind_eq_some_iff, ← load?_eq, load]
  cases load? file environment <;> simp

theorem ofNode?_eq_some_iff {root : Node} {settings : Settings} : ofNode? root = some settings ↔
    (value? root Setting.bind.area Setting.bind.key).bind toText? = some settings.bind ∧
    (value? root Setting.maxLength.area Setting.maxLength.key).bind toNat? = some settings.maxLength ∧
    (value? root Setting.directory.area Setting.directory.key).bind toText? = some settings.directory ∧
    (value? root Setting.filter.area Setting.filter.key).bind toText? = some settings.filter := by
  have inOrder : ofNode? root = (do
      let bind ← (value? root Setting.bind.area Setting.bind.key).bind toText?
      let maxLength ← (value? root Setting.maxLength.area Setting.maxLength.key).bind toNat?
      let directory ← (value? root Setting.directory.area Setting.directory.key).bind toText?
      let filter ← (value? root Setting.filter.area Setting.filter.key).bind toText?
      pure { bind, maxLength, directory, filter }) := by
    simp [ofNode?, Setting.area, Setting.key, Option.bind_assoc]
  obtain ⟨bind, maxLength, directory, filter⟩ := settings
  rw [inOrder]
  cases (value? root Setting.bind.area Setting.bind.key).bind toText? <;>
    cases (value? root Setting.maxLength.area Setting.maxLength.key).bind toNat? <;>
    cases (value? root Setting.directory.area Setting.directory.key).bind toText? <;>
    cases (value? root Setting.filter.area Setting.filter.key).bind toText? <;>
    simp

theorem read_layers {α : Type} {read? : Node → Option α} (reads : Reads read?) {file : File} {tree : Node}
    {environment : List (String × String)} (readable : file.tree? = some tree) (fits : Fits environment)
    (setting : Setting) :
    (value? (layers tree environment) setting.area setting.key).bind read? =
      (setting.node? tree environment).bind read? := by
  have holds := laid_of_fits fits setting tree
  have distinct : (overlayAll tree (ofEnvironment environment)).Distinct := by
    refine distinct_overlayAll (distinct_tree readable) fun value member => ?_
    obtain ⟨entry, _, made⟩ := List.mem_filterMap.mp member
    obtain ⟨key, _, rfl⟩ := Option.map_eq_some_iff.mp made
    exact .flat (by simp)
  obtain ⟨entries, table⟩ : ∃ entries, overlayAll tree (ofEnvironment environment) = .table entries := by
    obtain ⟨values, _, rfl⟩ := Option.map_eq_some_iff.mp readable
    rw [← overlayAll_append]
    exact exists_overlayAll_table [] _
  rw [layers, table]
  rw [table] at holds distinct
  exact read_value?_eq reads holds distinct

theorem load_of_unset {name value : String} (unset : variableKey? name = none) (file : File)
    (before after : List (String × String)) :
    load file (before ++ (name, value) :: after) = load file (before ++ after) := by
  have same : ofEnvironment (before ++ (name, value) :: after) = ofEnvironment (before ++ after) := by
    simp [ofEnvironment, unset]
  unfold load load?
  rw [same]

/-! Files. -/

theorem overlayAll_of_names {values : List (String × Node)} {below : List (String × Node)}
    (names : ∀ value ∈ values, Step.pathOf value.1 = [.key value.1]) :
    overlayAll (.table below) values = .table (overlayEntries below values) := by
  induction values generalizing below with
  | nil => simp [overlayAll, overlayEntries]
  | cons value rest ih =>
    obtain ⟨first, others⟩ := List.forall_mem_cons.mp names
    rw [overlayAll, List.foldl_cons, first, overlayEntries]
    exact ih others

theorem mem_entriesOfMembers {members : List (String × Json)} {before : List (String × Node)}
    {entry : String × Node} (member : entry ∈ entriesOfMembers before members) :
    entry ∈ before ∨ ∃ value, (entry.1, value) ∈ members := by
  induction members generalizing before with
  | nil => exact .inl member
  | cons first rest ih =>
    rcases ih member with old | ⟨value, later⟩
    · rcases mem_put old with rfl | older
      · exact .inr ⟨first.2, List.mem_cons_self⟩
      · exact .inl older
    · exact .inr ⟨value, List.mem_cons_of_mem first later⟩

theorem values?_of_members {file : File} {members : List (String × Json)}
    (read : file.members? = some members) : file.values? = some (entriesOfMembers [] members) := by
  -- A file without values has no members.
  cases file with
  | none | missing => cases read
  | found name content =>
    cases named : fileStem? "json" name with
    | none => simp [File.members?, named] at read
    | some stem =>
      cases decoded : content.anyText? with
      | none => simp [File.members?, named, decoded] at read
      | some written =>
        simp only [File.members?, named, decoded] at read
        simp only [File.values?, named, decoded, ofText?]
        cases json : Json.ofText? written with
        | error fault => simp [json] at read
        | ok value =>
          cases value with
          | object held =>
            simp only [json, Option.some.injEq] at read
            simp only [read]
          | _ => simp [json] at read

theorem tree?_of_names {file : File} {members : List (String × Json)}
    (read : file.members? = some members)
    (names : ∀ member ∈ members, Step.pathOf member.1 = [.key member.1]) :
    file.tree? = some (ofJson (.object members)) := by
  have distinct := distinct_entriesOfMembers members distinct_empty
  have plain : ∀ entry ∈ entriesOfMembers [] members, Step.pathOf entry.1 = [.key entry.1] := by
    intro entry member
    rcases mem_entriesOfMembers member with none | ⟨value, listed⟩
    · cases none
    · exact names _ listed
  rw [File.tree?, values?_of_members read, Option.map_some, overlayAll_of_names plain,
    overlayEntries_append _ distinct.keys distinct.values, List.nil_append, ofJson]

/-- Where the section is a table or is missing, the variable comes first, the file second, and the
built-in value last. -/
theorem node?_of_table {setting : Setting} {tree : Node} (environment : List (String × String))
    (table : tree.entries.lookup setting.area = none ∨
      ∃ entries, tree.entries.lookup setting.area = some (.table entries)) :
    setting.node? tree environment = some (((setting.given? environment).map Node.text).getD
      (((find setting.area tree.entries).entries.lookup setting.key).getD setting.builtIn)) := by
  unfold Setting.node? Setting.areaIn?
  cases setting.given? environment with
  | some value => rfl
  | none =>
    rcases table with absent | ⟨entries, here⟩
    · have empty : (find setting.area tree.entries).entries = [] := by
        rw [find, absent]
        rfl
      -- Set or not, the section has no entry of the file.
      cases setting.touched environment <;> simp [absent, empty]
    · have own : (find setting.area tree.entries).entries = entries := by
        rw [find, here]
        rfl
      cases setting.touched environment <;> simp [here, own]

/-- Settings are loaded just if all four can be read, each from its own layers: from its variable
`SYLVA__<SECTION>__<KEY>`, from the file, or from the built-in value. What the file says is the member of the
section's member. A variable `SYLVA_<SECTION>__<KEY>` makes no difference. -/
theorem layers_of_load {environment : List (String × String)} (fits : Fits environment) (file : File) :
    (∀ settings, load file environment = .ok settings ↔ ∃ tree, file.tree? = some tree ∧
      (Setting.bind.node? tree environment).bind toText? = some settings.bind ∧
      (Setting.maxLength.node? tree environment).bind toNat? = some settings.maxLength ∧
      (Setting.directory.node? tree environment).bind toText? = some settings.directory ∧
      (Setting.filter.node? tree environment).bind toText? = some settings.filter) ∧
    (∀ (tree : Node) (setting : Setting),
      (tree.entries.lookup setting.area = none ∨
        ∃ entries, tree.entries.lookup setting.area = some (.table entries)) →
      setting.node? tree environment = some (((setting.given? environment).map Node.text).getD
        (((find setting.area tree.entries).entries.lookup setting.key).getD setting.builtIn))) ∧
    (∀ members, file.members? = some members →
      (∀ member ∈ members, Step.pathOf member.1 = [.key member.1]) →
      file.tree? = some (ofJson (.object members)) ∧ ∀ setting : Setting,
        (find setting.area (ofJson (.object members)).entries).entries.lookup setting.key =
          (((Json.object members).member? setting.area).bind (·.member? setting.key)).map ofJson) ∧
    (∀ (setting : Setting) (name value : String) (before after : List (String × String)),
      Text.lowercase name.toList = setting.documentedName →
      environment = before ++ (name, value) :: after →
      load file environment = load file (before ++ after)) := by
  refine ⟨fun settings => ?_, fun tree setting table => node?_of_table environment table,
    fun members read names => ⟨tree?_of_names read names, fun setting => lookup_find_ofJson ..⟩, ?_⟩
  · rw [load_eq_ok_iff]
    refine exists_congr fun tree => and_congr_right fun readable => ?_
    rw [ofNode?_eq_some_iff]
    simp only [read_layers toText?_overlay readable fits, read_layers toNat?_overlay readable fits]
  · rintro setting name value before after documented rfl
    exact load_of_unset (variableKey_of_documented documented) file before after

theorem fits_of_pairs {environment : List (String × String)}
    (pairs : ∀ entry ∈ environment, ∀ key ∈ variableKey? entry.1,
      ∃ area name, Step.pathOf key = [.key area, .key name]) : Fits environment := by
  intro entry member key read setting rest path
  obtain ⟨area, name, pair⟩ := pairs entry member key read
  cases pair.symm.trans path
  exact ⟨name, [], rfl, fun _ => rfl⟩

/-- Of the four settings the first is in the file, the second in its variable as well, and the last only
in a variable that sets nothing. -/
theorem layers_of_load_town :
    let written := "\x7b\"server\": \x7b\"bind\": \"0.0.0.0:80\"\x7d, \"query\": \x7b\"max_length\": 512\x7d\x7d"
    let file := File.found "settings.json" (.file written.toUTF8)
    let environment := [("SYLVA__QUERY__MAX_LENGTH", "2048"), ("SYLVA_LOG__FILTER", "debug")]
    Fits environment ∧
      (∃ tree, file.tree? = some tree ∧
        (Setting.bind.node? tree environment).bind toText? = some "0.0.0.0:80" ∧
        (Setting.maxLength.node? tree environment).bind toNat? = some 2048 ∧
        (Setting.directory.node? tree environment).bind toText? = some "schemas" ∧
        (Setting.filter.node? tree environment).bind toText? = some "info") ∧
      (∃ members, file.members? = some members ∧ file.tree? = some (ofJson (.object members))) ∧
      load file environment = load file [("SYLVA__QUERY__MAX_LENGTH", "2048")] := by
  intro written file environment
  have fits : Fits environment := by
    refine fits_of_pairs (List.forall_mem_cons.mpr ⟨fun key read => ?_, List.forall_mem_singleton.mpr ?_⟩)
    · have same : variableKey? "SYLVA__QUERY__MAX_LENGTH" = some "query.max_length" := by decide +kernel
      cases same.symm.trans read
      exact ⟨"query", "max_length", by decide +kernel⟩
    · have unset : variableKey? "SYLVA_LOG__FILTER" = none := by decide +kernel
      simp [unset]
  have loaded : load file environment = .ok ⟨"0.0.0.0:80", 2048, "schemas", "info"⟩ :=
    Parser.eq_ok_of_toOption (by decide +kernel)
  obtain ⟨read, _, plain, unset⟩ := layers_of_load fits file
  refine ⟨fits, (read _).mp loaded, ?_, ?_⟩
  · have held : file.members?.any (fun members => members.all fun member =>
        Step.pathOf member.1 = [.key member.1]) = true := by decide +kernel
    obtain ⟨members, found, names⟩ := (Option.any_eq_true _ _).mp held
    refine ⟨members, found, (plain members found fun member listed => ?_).1⟩
    exact of_decide_eq_true (List.all_eq_true.mp names member listed)
  · exact unset .filter "SYLVA_LOG__FILTER" "debug" [("SYLVA__QUERY__MAX_LENGTH", "2048")] []
      (by decide) rfl

/-- The documented variable of the address leaves the address as it is built in. -/
theorem load_documented_variable :
    Text.lowercase "SYLVA_SERVER__BIND".toList = Setting.bind.documentedName ∧
      load .none [("SYLVA_SERVER__BIND", "0.0.0.0:9000")] =
        .ok ⟨"127.0.0.1:8080", 1024, "schemas", "info"⟩ :=
  ⟨by decide, Parser.eq_ok_of_toOption (by decide +kernel)⟩

end GraphQuery.Settings
