import GraphQuery.Proofs.Parsing
import GraphQuery.Proofs.Query.Clarity
import GraphQuery.Proofs.Query.Normalization
import GraphQuery.Proofs.Query.Progress

/-! Literals, from the query as typed to the plan.

Two readers decide where literals are. The one that normalizes a query opens one at a quote that begins
a word and comes again; the matcher, which comes second, reads one at a quote that begins a value. Their
literals are the same, and untouched, unless a name or a bare value has a quote that the first reader
takes for the start of a literal. -/

set_option autoImplicit false

namespace GraphQuery.Query

open Text Grammar Query.Language Normalized

/-- Whether some quote that begins a word of the text comes again, in the text or in the `rest` behind
it. The flag says whether a word begins where the text does. -/
def opens (rest : List Char) : Bool → List Char → Bool
  | _, [] => false
  | begins, c :: text =>
    begins && isQuote c && (text ++ rest).contains c || opens rest (isWhitespace c) text

/-- Wherever the text stands in the query, none of its quotes opens a literal. -/
def Inert (query text : List Char) : Prop :=
  ∀ rest, text ++ rest <:+ query → opens rest true text = false

section Opening
variable {query text rest : List Char}

theorem opens_of_begins {begins : Bool} (closed : opens rest true text = false) :
    opens rest begins text = false := by
  cases text with
  | nil => rfl
  | cons c text => cases begins <;> simp_all [opens]

theorem opens_of_unquoted {begins : Bool} (unquoted : ∀ c ∈ text, isQuote c = false) :
    opens rest begins text = false := by
  induction text generalizing begins with
  | nil => rfl
  | cons c text ih =>
    have later : ∀ begins, opens rest begins text = false := fun _ =>
      ih fun d member => unquoted d (List.mem_cons_of_mem c member)
    simp [opens, unquoted c List.mem_cons_self, later]

theorem inert_of_unquoted (unquoted : ∀ c ∈ text, isQuote c = false) : Inert query text :=
  fun _ _ => opens_of_unquoted unquoted

theorem isQuote_iff {c : Char} : isQuote c = true ↔ c = '"' ∨ c = '\'' := by
  simp [isQuote]

theorem isQuote_of_isAlpha {c : Char} (alpha : c.isAlpha = true) : isQuote c = false := by
  cases outcome : isQuote c with
  | false => rfl
  | true => cases isQuote_iff.mp outcome <;> simp_all

theorem isQuote_of_isBlank {c : Char} (blank : isBlank c = true) :
    isQuote c = false ∧ isWhitespace c = true := by
  simp only [isBlank, Bool.or_eq_true, beq_iff_eq] at blank
  cases blank with
  | inl space => rw [space]; decide
  | inr tab => rw [tab]; decide

theorem inert_of_lettered (lettered : Lettered text) : Inert query text :=
  inert_of_unquoted fun c member => isQuote_of_isAlpha (lettered.2 c member)

end Opening

/-! The reader that normalizes, at the places that the matcher comes to. -/

def Normalized.Reader.outside : Bool → Reader
  | true => .start
  | false => .word

structure Reached (query : List Char) (reader : Reader) (text : List Char) : Prop where
  left : text <:+ (ofQuery query).text
  upcoming : Upcoming query reader text

def Outside (query text : List Char) : Prop :=
  ∃ begins, Reached query (.outside begins) text

section Reading
variable {query text rest read : List Char} {c : Char} {begins : Bool}

theorem reached_text (query : List Char) : Reached query .start (ofQuery query).text :=
  ⟨List.suffix_rfl, upcoming_text query⟩

theorem Reached.visible (reached : Reached query .start (c :: text)) : isWhitespace c = false := by
  obtain ⟨_, _, _, kept⟩ := reached.upcoming
  exact (keep_start_eq_cons kept).1

/-- Past one character the reader is still outside literals, unless that character opens one. -/
theorem Reached.cons (reached : Reached query (.outside begins) (c :: text))
    (closed : begins = true → isQuote c = true → c ∉ text) :
    Reached query (.outside (isWhitespace c)) text := by
  refine ⟨(List.suffix_cons c text).trans reached.left, ?_⟩
  obtain ⟨column, typed, inside, kept⟩ := reached.upcoming
  cases begins with
  | true =>
    obtain ⟨visible, column, later, suffix, kept⟩ := keep_start_eq_cons kept
    -- A quote that comes again as typed comes again in what is kept.
    have plain : Reader.afterFirst c later = .word := by
      unfold Reader.afterFirst
      apply if_neg
      simp only [Bool.and_eq_true, List.contains_iff_mem, not_and]
      intro quote again
      exact closed rfl quote (kept ▸ mem_keep_of_mem again visible)
    rw [plain] at kept
    rw [visible]
    exact ⟨column, later, ((List.suffix_cons c later).trans suffix).trans inside, kept⟩
  | false =>
    cases keep_word_eq_cons kept with
    | inl goes => exact goes.1 ▸ goes.2.mono inside
    | inr ends =>
      obtain ⟨rfl, upcoming⟩ := ends
      exact upcoming.mono inside

theorem Reached.append (reached : Reached query (.outside begins) (read ++ rest))
    (closed : opens rest begins read = false) : Outside query rest := by
  induction read generalizing begins with
  | nil => exact ⟨begins, reached⟩
  | cons c read ih =>
    simp only [opens, Bool.or_eq_false_iff, Bool.and_eq_false_imp, Bool.and_eq_true] at closed
    refine ih (reached.cons fun start quote => ?_) closed.2
    simpa using closed.1 ⟨start, quote⟩

theorem Outside.append (outside : Outside query (read ++ rest))
    (inert : Inert (ofQuery query).text read) : Outside query rest := by
  obtain ⟨begins, reached⟩ := outside
  exact reached.append (opens_of_begins (inert rest reached.left))

/-- Behind a gap a word begins. In particular the gap is one space. -/
theorem Outside.gap (outside : Outside query text) (gap : Gap text rest) :
    Reached query .start rest := by
  obtain ⟨blanks, nonempty, blank, rfl⟩ := gap
  obtain ⟨begins, reached⟩ := outside
  cases blanks with
  | nil => exact absurd rfl nonempty
  | cons first more =>
    obtain ⟨unquoted, space⟩ := isQuote_of_isBlank (blank first List.mem_cons_self)
    have later := reached.cons fun _ quote => absurd quote (by simp [unquoted])
    rw [space] at later
    cases more with
    | nil => exact later
    | cons second more =>
      -- Outside literals no two blanks are kept in a row.
      have blank := blank second (List.mem_cons_of_mem first List.mem_cons_self)
      exact absurd (isQuote_of_isBlank blank).2 (by simp [Reached.visible later])

/-- Where a word begins with a quote that comes again, both readers read the same literal. -/
theorem Reached.literal {quote : Char} {inside : List Char}
    (reached : Reached query .start (quote :: (inside ++ quote :: rest)))
    (opener : isQuote quote = true) (absent : quote ∉ inside) :
    quote :: (inside ++ [quote]) <:+: query ∧ Reached query .word rest := by
  obtain ⟨_, typed, within, kept⟩ := reached.upcoming
  obtain ⟨visible, column, later, suffix, kept⟩ := keep_start_eq_cons kept
  have closes : quote ∈ later := by
    have again := mem_of_mem_keep (kept ▸ List.mem_append_right inside List.mem_cons_self)
    exact again.resolve_right fun space => by simp [space, isQuote] at opener
  have literal : Reader.afterFirst quote later = .literal quote :=
    if_pos (by simp [opener, closes])
  rw [literal] at kept
  obtain ⟨last, rfl, upcoming⟩ := keep_literal_eq_append absent kept
  have typed : quote :: (inside ++ quote :: last) <:+ query := suffix.trans within
  have split : quote :: (inside ++ quote :: last) = (quote :: (inside ++ [quote])) ++ last := by simp
  rw [split] at typed
  refine ⟨(List.prefix_append _ _).isInfix.trans typed.isInfix, ?_, ?_⟩
  · have tail : quote :: (inside ++ quote :: rest) = (quote :: (inside ++ [quote])) ++ rest := by simp
    exact (List.suffix_append _ _).trans (tail ▸ reached.left)
  · exact upcoming.mono ((List.suffix_append _ _).trans typed)

end Reading

/-! Pieces of a sentence that are no values open no literal. -/

section Pieces
variable {query : List Char}

theorem keeps_word {word : String} (fixed : word ∈ fixedWords) : Keeps (Outside query) (Word word) := by
  intro text rest said outside
  obtain ⟨found, rfl, same, _⟩ := said
  exact outside.append (inert_of_lettered (lettered_of_equalFold fixed same))

theorem keeps_oneOf {words : List String} (fixed : ∀ word ∈ words, word ∈ fixedWords) :
    Keeps (Outside query) (OneOf words) := by
  intro text rest said outside
  obtain ⟨word, member, said⟩ := said
  exact keeps_word (fixed word member) said outside

theorem keeps_gap : Keeps (Outside query) Gap :=
  fun _ _ gap outside => ⟨true, outside.gap gap⟩

theorem keeps_comma : Keeps (Outside query) (Sign ',') := by
  intro text rest said outside
  obtain rfl : text = [','] ++ rest := said
  exact outside.append (inert_of_unquoted (by simp [isQuote]))

theorem keeps_name {forms : List (List Char)}
    (inert : ∀ form ∈ forms, Inert (ofQuery query).text form) :
    Keeps (Outside query) (Name forms) := by
  intro text rest said outside
  obtain ⟨form, member, rfl, _⟩ := said
  exact outside.append (inert form member)

theorem keeps_key {entry : TypeEntry} {key : String}
    (inert : ∀ form ∈ entry.keyForms, Inert (ofQuery query).text form) :
    Keeps (Outside query) (Key entry key) := by
  intro text rest said outside
  obtain ⟨property, member, _, said⟩ := said
  exact keeps_name (fun form inside => inert form (List.mem_flatMap.mpr ⟨property, member, inside⟩))
    said outside

theorem keeps_phrase {words : List String} (fixed : ∀ word ∈ words, word ∈ fixedWords) :
    Keeps (Outside query) (Phrase words) := by
  induction words with
  | nil => exact fun _ _ same => (same ▸ ·)
  | cons first others ih =>
    have head : Keeps (Outside query) (Word first) := keeps_word (fixed first List.mem_cons_self)
    have tail := ih fun word member => fixed word (List.mem_cons_of_mem first member)
    cases others with
    | nil => exact head
    | cons second others => exact .sequence (by simp [head, keeps_gap, tail])

theorem keeps_lookupPhrase {lookup : Lookup} : Keeps (Outside query) (LookupPhrase lookup) := by
  intro text rest said outside
  obtain ⟨words, member, said⟩ := said
  exact keeps_phrase (fixed_of_mem_lookupPhrases member) said outside

theorem keeps_article : Keeps (Outside query) (Optional (Sequence [Gap, Article])) :=
  .optional (.sequence (by simp [keeps_gap, Article, keeps_oneOf articles_fixed]))

theorem keeps_opening : Keeps (Outside query) (Optional Opening) :=
  .optional (.sequence (by
    simp [keeps_word (show conditionOpener ∈ fixedWords by decide), keeps_article, keeps_gap]))

theorem keeps_joint : Keeps (Outside query) Joint :=
  .sequence (by simp [keeps_gap, Connective, keeps_oneOf connectives_fixed])

theorem keeps_listSeparator : Keeps (Outside query) ListSeparator :=
  .either (.sequence (by simp [Keeps.optional keeps_gap, keeps_comma]))
    (.sequence (by simp [keeps_gap, keeps_word (show "and" ∈ fixedWords by decide)]))

theorem keeps_projection {entry : TypeEntry} {keys : Option (List String)}
    (inert : ∀ form ∈ entry.keyForms, Inert (ofQuery query).text form) :
    Keeps (Outside query) (ProjectionText entry keys) := by
  cases keys with
  | none => exact fun _ _ same => (same ▸ ·)
  | some keys =>
    have listed : Keeps (Outside query) (KeyList entry keys) :=
      .series keeps_listSeparator (fun _ => keeps_key inert) keys
    have the : Keeps (Outside query) (Optional (Sequence [Word "the", Gap])) :=
      .optional (.sequence (by simp [keeps_word (show "the" ∈ fixedWords by decide), keeps_gap]))
    exact .sequence (by simp [listed, keeps_gap, keeps_oneOf joiners_fixed, the])

theorem keeps_relation {grammar : Grammar} {relation : TypeId}
    (inert : ∀ form ∈ grammar.allForms, Inert (ofQuery query).text form) :
    Keeps (Outside query) (RelationText grammar relation) := by
  intro text rest said
  obtain ⟨entry, member, _, said⟩ := said
  have named : Keeps (Outside query) (Name entry.forms) := keeps_name fun form inside =>
    inert form (List.mem_flatMap.mpr
      ⟨entry, List.mem_append_right _ member, List.mem_append_left _ inside⟩)
  have joined : Keeps (Outside query) (Optional (Sequence [Connective, Gap])) :=
    .optional (.sequence (by simp [Connective, keeps_oneOf connectives_fixed, keeps_gap]))
  exact Keeps.sequence
    (by simp [keeps_gap, joined, keeps_oneOf openers_fixed, named, keeps_article]) said

theorem start_of_introduction {entry : TypeEntry} {cue : Cue} {key : String} {lookup : Lookup}
    {text rest : List Char} (inert : ∀ form ∈ entry.keyForms, Inert (ofQuery query).text form)
    (said : Introduction entry cue key lookup text rest) (outside : Outside query text) :
    Reached query .start rest := by
  have word : Keeps (Outside query) (Word "of") := keeps_word (by decide)
  have filler : Keeps (Outside query) (Optional (Sequence [Gap, Word "of"])) :=
    .optional (.sequence (by simp [keeps_gap, word]))
  cases said with
  | property said =>
    obtain ⟨_, key, gap⟩ := said
    exact (keeps_key inert key outside).gap gap
  | filler said =>
    obtain ⟨_, key, _, before, _, of, gap⟩ := said
    exact (word of (keeps_gap before (keeps_key inert key outside))).gap gap
  | lookup said =>
    obtain ⟨_, key, _, of, _, before, _, phrase, gap⟩ := said
    have outside := keeps_gap before (filler of (keeps_key inert key outside))
    exact (keeps_lookupPhrase phrase outside).gap gap
  | implied _ said =>
    obtain ⟨_, phrase, gap⟩ := said
    exact (keeps_lookupPhrase phrase outside).gap gap

end Pieces

/-! Values, and all that has values in it: what begins outside literals, with inert bare values, ends
outside literals, and its literals are verbatim. -/

def Value.Inert (query : List Char) : Value → Prop
  | .literal _ _ => True
  | .bare read => Query.Inert query read.toList

/-- A literal that stands in the query with its quotes, character by character. -/
def Value.Verbatim (query : List Char) : Value → Prop
  | .literal quote inside => quote :: (inside.toList ++ [quote]) <:+: query
  | .bare _ => True

section Values
variable {query : List Char} {bare : BareRule} {grammar : Grammar} {entry : TypeEntry}
  {text rest : List Char}

theorem verbatim_of_valueText {span : Span} {value : Value} (said : ValueText span value text rest)
    (inert : value.Inert (ofQuery query).text) (reached : Reached query .start text) :
    value.Verbatim query ∧ Outside query rest := by
  cases said with
  | literal quote absent =>
    obtain ⟨stands, later⟩ := reached.literal (isQuote_iff.mpr quote) absent
    exact ⟨by simpa [Value.Verbatim] using stands, false, later⟩
  | @bare read _ _ _ =>
    have outside : Outside query (read ++ rest) := ⟨true, reached⟩
    exact ⟨trivial, outside.append (by simpa [Value.Inert] using inert)⟩

theorem verbatim_of_clauseText {clause : Clause}
    (names : ∀ form ∈ entry.keyForms, Inert (ofQuery query).text form)
    (inert : clause.value.Inert (ofQuery query).text) (said : ClauseText bare entry clause text rest)
    (outside : Outside query text) : clause.value.Verbatim query ∧ Outside query rest := by
  cases said with
  | mk said =>
    obtain ⟨_, opening, _, introduction, value⟩ := said
    exact verbatim_of_valueText value inert
      (start_of_introduction names introduction (keeps_opening opening outside))

theorem verbatim_of_clausesText {clauses : List Clause}
    (names : ∀ form ∈ entry.keyForms, Inert (ofQuery query).text form)
    (inert : ∀ clause ∈ clauses, clause.value.Inert (ofQuery query).text)
    (said : ClausesText bare entry clauses text rest) (outside : Outside query text) :
    (∀ clause ∈ clauses, clause.value.Verbatim query) ∧ Outside query rest := by
  cases said with
  | none => exact ⟨by simp, outside⟩
  | some said =>
    obtain ⟨_, gap, series⟩ := said
    exact series.invariant keeps_joint (verbatim_of_clauseText names) inert (keeps_gap gap outside)

theorem verbatim_of_facetText {facet : Facet}
    (names : ∀ form ∈ entry.forms ++ entry.keyForms, Inert (ofQuery query).text form)
    (inert : ∀ clause ∈ facet.clauses, clause.value.Inert (ofQuery query).text)
    (said : FacetText bare entry facet text rest) (outside : Outside query text) :
    (∀ clause ∈ facet.clauses, clause.value.Verbatim query) ∧ Outside query rest := by
  have keys : ∀ form ∈ entry.keyForms, Inert (ofQuery query).text form := fun form member =>
    names form (List.mem_append_right _ member)
  have forms : ∀ form ∈ entry.forms, Inert (ofQuery query).text form := fun form member =>
    names form (List.mem_append_left _ member)
  cases said with
  | mk said =>
    obtain ⟨_, projection, _, name, clauses⟩ := said
    exact verbatim_of_clausesText keys inert clauses
      (keeps_name forms name (keeps_projection keys projection outside))

variable (names : ∀ form ∈ grammar.allForms, Inert (ofQuery query).text form)
include names

theorem verbatim_of_groupText {facets : List Facet}
    (inert : ∀ clause ∈ clausesOf facets, clause.value.Inert (ofQuery query).text)
    (said : GroupText bare grammar facets text rest) (outside : Outside query text) :
    (∀ clause ∈ clausesOf facets, clause.value.Verbatim query) ∧ Outside query rest := by
  obtain ⟨entry, member, series⟩ := said
  have forms : ∀ form ∈ entry.forms ++ entry.keyForms, Inert (ofQuery query).text form :=
    fun form inside =>
      names form (List.mem_flatMap.mpr ⟨entry, List.mem_append_left _ member, inside⟩)
  -- The clauses of the facets, facet by facet.
  simp only [clausesOf, List.forall_mem_flatMap] at inert ⊢
  exact series.invariant keeps_joint (verbatim_of_facetText forms) inert outside

theorem verbatim_of_hopText {hop : Hop}
    (inert : ∀ clause ∈ clausesOf hop.targets, clause.value.Inert (ofQuery query).text)
    (said : HopText bare grammar hop text rest) (outside : Outside query text) :
    (∀ clause ∈ clausesOf hop.targets, clause.value.Verbatim query) ∧ Outside query rest := by
  cases said with
  | mk said =>
    obtain ⟨_, relation, _, gap, targets⟩ := said
    exact verbatim_of_groupText names inert targets
      (keeps_gap gap (keeps_relation names relation outside))

theorem verbatim_of_treeText {tree : Tree}
    (inert : ∀ clause ∈ tree.clauses, clause.value.Inert (ofQuery query).text)
    (said : TreeText bare grammar tree (ofQuery query).text rest) :
    ∀ clause ∈ tree.clauses, clause.value.Verbatim query := by
  cases said with
  | mk said =>
    obtain ⟨_, sources, hops⟩ := said
    simp only [Tree.clauses, List.forall_mem_append, List.forall_mem_flatMap] at inert ⊢
    obtain ⟨first, outside⟩ := verbatim_of_groupText names inert.1 sources ⟨true, reached_text query⟩
    exact ⟨first, (hops.invariant (verbatim_of_hopText names) inert.2 outside).1⟩

end Values

/-- The conditions of a plan are those that were read, and a literal among their values stands in the
query as it was typed, unless a quote of a name or of a bare value opens a literal. -/
theorem literals_of_parse {parser : Parser} {query : String} {plan : Plan}
    (parsed : parser.parse query = .ok plan)
    (names : ∀ form ∈ parser.grammar.allForms, Inert (ofQuery query.toList).text form) :
    (ofQuery query.toList).text = [] ∧ plan = ∅ ∨
      ∃ found, (tree parser.grammar).read? (ofQuery query.toList).text = some (found, []) ∧
        plan.conditions.map (·.content) = found.clauses.map (·.content) ∧
        ((∀ clause ∈ found.clauses, clause.value.Inert (ofQuery query.toList).text) →
          ∀ clause ∈ found.clauses, clause.value.Verbatim query.toList) := by
  obtain ⟨_, silent | ⟨_, found, labels, read, reduced⟩⟩ := Parser.parse_eq_ok.mp parsed
  · exact .inl silent
  · exact .inr ⟨found, read, Plan.contents_of_ofTree reduced, fun inert =>
      verbatim_of_treeText names inert (tree_of_read read).1⟩

theorem literals_of_parse_town :
    ∃ plan found, Parser.townParser.parse "Person with name O'Brien and age 'a  b'" = .ok plan ∧
      (tree Parser.townParser.grammar).read?
        (ofQuery "Person with name O'Brien and age 'a  b'".toList).text = some (found, []) ∧
      plan.conditions.map (·.content) = [(.iexact, "name", "O'Brien"), (.iexact, "age", "a  b")] ∧
      ∀ clause ∈ found.clauses,
        clause.value.Verbatim "Person with name O'Brien and age 'a  b'".toList := by
  obtain ⟨plan, parsed⟩ := Parser.exists_plan
    (show (Parser.townParser.parse "Person with name O'Brien and age 'a  b'").toOption.isSome = true by
      decide +kernel)
  have unquoted : ∀ form ∈ Parser.townParser.grammar.allForms,
      (form.all fun c => isQuote c == false) = true := by
    decide +kernel
  have read : (tree Parser.townParser.grammar).read?
      (ofQuery "Person with name O'Brien and age 'a  b'".toList).text =
        some (⟨[⟨1, none, [⟨"name", .iexact, .bare "O'Brien"⟩,
          ⟨"age", .iexact, .literal '\'' "a  b"⟩]⟩], []⟩, []) := by
    decide +kernel
  have names : ∀ form ∈ Parser.townParser.grammar.allForms,
      Inert (ofQuery "Person with name O'Brien and age 'a  b'".toList).text form :=
    fun form member => inert_of_unquoted (by simpa using unquoted form member)
  cases literals_of_parse parsed names with
  | inl silent => exact absurd silent.1 (by decide +kernel)
  | inr spoken =>
    obtain ⟨found, same, contents, verbatim⟩ := spoken
    obtain rfl := (Prod.mk.inj (Option.some.inj (read.symm.trans same))).1
    refine ⟨plan, _, parsed, same, contents, verbatim ?_⟩
    -- The apostrophe stands inside a word.
    intro clause member
    rcases List.mem_pair.mp member with rfl | rfl
    · exact fun rest _ => rfl
    · trivial

/-- The quote before `n` is closed by the one before `a` when the query is normalized, so the space in
the literal behind it is not kept. -/
theorem exists_altered_literal :
    ∃ plan found, Parser.townParser.parse "Person with name rock 'n roll and age 'a  b'" = .ok plan ∧
      (tree Parser.townParser.grammar).read?
        (ofQuery "Person with name rock 'n roll and age 'a  b'".toList).text = some (found, []) ∧
      plan.conditions.map (·.value) = ["rock 'n roll", "a b"] ∧
      ⟨"age", .iexact, .literal '\'' "a b"⟩ ∈ found.clauses ∧
      ¬ (Value.literal '\'' "a b").Verbatim
        "Person with name rock 'n roll and age 'a  b'".toList := by
  have parsed : ((Parser.townParser.parse
      "Person with name rock 'n roll and age 'a  b'").toOption.map
        (·.conditions.map (·.value))) = some ["rock 'n roll", "a b"] := by
    decide +kernel
  obtain ⟨plan, found, values⟩ := Option.map_eq_some_iff.mp parsed
  refine ⟨plan, ⟨[⟨1, none, [⟨"name", .iexact, .bare "rock 'n roll"⟩,
    ⟨"age", .iexact, .literal '\'' "a b"⟩]⟩], []⟩, Parser.eq_ok_of_toOption found, ?_, values, ?_, ?_⟩
  · decide +kernel
  · decide
  · unfold Value.Verbatim
    decide +kernel

end GraphQuery.Query
