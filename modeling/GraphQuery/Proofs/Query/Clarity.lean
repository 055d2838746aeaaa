import GraphQuery.Proofs.Query.Stops

/-! Where a bare value ends.

A bare value goes on up to the first space at which something else begins. So it is read as it was
meant exactly if nothing else seems to begin inside it, or right after it where nothing does. -/

set_option autoImplicit false

namespace GraphQuery.Query

open Text Grammar

namespace Language

/-- A bare value that can be read in one way only. -/
structure ClearBare (grammar : Grammar) (entry : TypeEntry) (cue : Cue) (read rest : List Char) :
    Prop where
  solid : Solid read
  /-- It does not read as a literal, not even together with what follows. -/
  unquoted : ∀ quote inside, quote = '"' ∨ quote = '\'' → read = quote :: inside →
    quote ∉ inside ++ rest
  /-- It does not end earlier. -/
  unbroken : ∀ before after, read = before ++ ' ' :: after →
    ¬ Starts (Continuation grammar entry) (' ' :: after ++ rest)
  bounded : rest = [] ∨ rest.head? = some ' '
  /-- It does not begin with a lookup phrase that was left out. -/
  plain : cue ≠ .lookup → ∀ lookup, ¬ Starts (LookupPhrase lookup) (read ++ rest)
  /-- It does not begin with the filler `of`. The word alone may be a value. -/
  unfilled : cue = .property → ¬ Starts (Sequence [Word "of", Gap]) (read ++ rest)

end Language

open Query.Language Matcher

variable {grammar : Grammar} {entry : TypeEntry} {text rest : List Char}

/-! Where something else begins. -/

theorem openers_not_connectives : ∀ word ∈ relationshipOpeners, word ∉ connectives := by decide

theorem lead_of_hopStart (clear : Clear grammar) (said : HopStart grammar text rest) :
    ∃ word ∈ relationshipOpeners, Fixed word text ∧
      ∃ middle, Gap (afterLead text) middle ∧ ∃ entry ∈ grammar.relationshipEntries,
        lead middle ∈ entry.forms ∧ rest = afterLead middle := by
  obtain ⟨entry, member, _, opener, middle, gap, name⟩ := said
  obtain ⟨word, listed, begins, rfl⟩ := fixed_of_oneOf openers_fixed opener
  exact ⟨word, listed, begins, middle, gap, entry, member,
    lead_of_name (fun form found => clear.relationship_lettered member found) name⟩

/-! Texts that begin with a word are solid. -/

theorem headed_of_lettered {form : List Char} (lettered : Lettered form) : Headed form := by
  obtain ⟨nonempty, letters⟩ := lettered
  refine ⟨nonempty, ?_⟩
  cases form with
  | nil => exact absurd rfl nonempty
  | cons c more => exact solid_cons.mpr (not_isBlank_of_isAlpha (letters c List.mem_cons_self))

theorem solid_of_name {forms : List (List Char)} (lettered : ∀ form ∈ forms, Lettered form)
    (said : Name forms text rest) : Solid text :=
  solid_of_headed (fun form found => headed_of_lettered (lettered form found)) said

section Node
variable (clear : Clear grammar) (member : entry ∈ grammar.nodeEntries)
include clear member

theorem name_lettered : ∀ form ∈ entry.forms, Lettered form :=
  fun _ found => clear.node_lettered member (List.mem_append_left _ found)

theorem key_lettered : ∀ form ∈ entry.keyForms, Lettered form :=
  fun _ found => clear.node_lettered member (List.mem_append_right _ found)

theorem solid_of_key {key : String} (said : Key entry key text rest) : Solid text :=
  solid_of_lead (key_lettered clear member _ (lead_of_key (key_lettered clear member) said).1).1

theorem lead_of_clauseStart (said : ClauseStart entry text rest) :
    Fixed conditionOpener text ∨ lead text ∈ entry.keyForms ∨
      ∃ first ∈ lookupOpeners, Fixed first text ∧
        ∃ second middle, Gap (afterLead text) middle ∧ Fixed second middle := by
  rcases said with opener | ⟨_, key⟩ | ⟨_, phrase⟩
  · exact .inl (fixed_of_word (by decide) opener).1
  · exact .inr (.inl (lead_of_key (key_lettered clear member) key).1)
  · exact .inr (.inr (lookupPhrase_start phrase))

theorem solid_of_clauseStart (said : ClauseStart entry text rest) : Solid text := by
  rcases lead_of_clauseStart clear member said with opener | keyed | ⟨_, _, begins, _⟩
  · exact opener.solid
  · exact solid_of_lead (key_lettered clear member _ keyed).1
  · exact begins.solid

theorem worded_of_clear : Worded grammar entry where
  relationships _ known _ found := headed_of_lettered (clear.relationship_lettered known found)
  names form found := headed_of_lettered (name_lettered clear member form found)
  keys property listed form found := headed_of_lettered
    (key_lettered clear member form (List.mem_flatMap.mpr ⟨property, listed, found⟩))

theorem read_key {key : String} (said : Key entry key text rest) :
    (property entry).read? text = some (key, rest) :=
  read_property (key_lettered clear member) (clear.keys entry (List.mem_append_left _ member)) said

end Node

/-! Values. -/

def Onward (grammar : Grammar) (entry : TypeEntry) (text : List Char) : Prop :=
  text = [] ∨ Starts (Continuation grammar entry) text

theorem readLiteral_literal {quote : Char} {inside : List Char} (opens : quote = '"' ∨ quote = '\'')
    (closes : quote ∉ inside) :
    readLiteral? (quote :: (inside ++ quote :: rest)) = some (.literal quote (.ofList inside), rest) := by
  have opens : (quote == '"' || quote == '\'') = true := by simpa using opens
  have passed : ∀ c ∈ inside, (c != quote) = true := by
    intro c member
    rw [bne_iff_ne]
    rintro rfl
    exact closes member
  rw [readLiteral?, if_pos opens, List.dropWhile_append_of_pos passed,
    List.takeWhile_append_of_pos passed]
  simp

theorem readLiteral_refused {text : List Char}
    (unquoted : ∀ quote inside, quote = '"' ∨ quote = '\'' → text = quote :: inside → quote ∉ inside) :
    readLiteral? text = none := by
  cases text with
  | nil => rfl
  | cons c more =>
    rw [readLiteral?]
    split
    · next opens =>
      have absent := unquoted c more (by simpa using opens) rfl
      have nothing : more.dropWhile (· != c) = [] := by
        rw [List.dropWhile_eq_nil_iff]
        intro d member
        rw [bne_iff_ne]
        rintro rfl
        exact absent member
      rw [nothing]
    · rfl

theorem read_value (clear : Clear grammar) (member : entry ∈ grammar.nodeEntries) {cue : Cue}
    {value : Value} (said : ValueText (ClearBare grammar entry cue) value text rest)
    (onward : Onward grammar entry rest) :
    (Query.value grammar entry).read? text = some (value, rest) := by
  rw [Query.value, read?_piece]
  have stops : ∀ {text}, endsValue grammar entry text = true ↔ Starts (Continuation grammar entry) text :=
    endsValue_iff (worded_of_clear clear member)
  cases said with
  | literal opens closes => rw [readLiteral_literal opens closes]; rfl
  | @bare read _ nonempty bare =>
    -- It is no literal, and it is split off exactly where it was meant to end.
    have unquoted : ∀ quote inside, quote = '"' ∨ quote = '\'' → read ++ rest = quote :: inside →
        quote ∉ inside := by
      intro quote inside opens same
      cases read with
      | nil => exact absurd rfl nonempty
      | cons c more =>
        obtain ⟨rfl, rfl⟩ := List.cons_eq_cons.mp same
        exact bare.unquoted c more opens rfl
    have ends : rest = [] ∨ rest.head? = some ' ' ∧ endsValue grammar entry rest = true := by
      rcases onward with empty | starts
      · exact .inl empty
      · exact bare.bounded.imp_right fun space => ⟨space, stops.mpr starts⟩
    have goes : ∀ before after, read = before ++ ' ' :: after →
        endsValue grammar entry (' ' :: after ++ rest) = false := by
      intro before after same
      rw [Bool.eq_false_iff]
      exact fun stop => bare.unbroken before after same (stops.mp stop)
    have split : splitAtStop (endsValue grammar entry) (read ++ rest) = (read, rest) :=
      splitAtStop_eq goes ends
    rw [readLiteral_refused unquoted, readBare?, split]
    cases read with
    | nil => exact absurd rfl nonempty
    | cons c more => rfl

end GraphQuery.Query
