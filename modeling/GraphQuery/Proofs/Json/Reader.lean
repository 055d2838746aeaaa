import GraphQuery.Json.Reader
import GraphQuery.Proofs.Json.Scanner
import Mathlib.Data.List.Forall2

/-! Values, lists and objects are read back from what is written of them.

A written list or object is read one item or member after the other. Which reader takes in a
member depends on its key and on the members before it, so an object is read back if a chain of
states leads from the first member to the last. -/

set_option autoImplicit false

namespace GraphQuery.Json

open Text

/-- What is written of a value is read as `value`, wherever a value may end. -/
def Reads {α : Type} (reader : Reader α) (json : Json) (value : α) : Prop :=
  ∀ ⦃rest : List Char⦄, Ends rest → reader (write json ++ rest) = .ok (value, rest)

theorem write_number (number : Number) : write (.number number) = number.write := rfl

theorem write_string (text : String) : write (.string text) = writeText text := rfl

theorem write_array (items : List Json) : write (.array items) = '[' :: writeItems items ++ [']'] :=
  rfl

theorem write_object (members : List (String × Json)) :
    write (.object members) = '\x7b' :: writeMembers members ++ ['\x7d'] :=
  rfl

theorem not_mark_of_isDigit {c : Char} (digit : c.isDigit = true) :
    isSpace c = false ∧ c ≠ ',' ∧ c ≠ ']' := by
  refine ⟨?_, ?_, ?_⟩
  · unfold isSpace
    simp only [Bool.or_eq_false_iff, beq_eq_false_iff_ne]
    refine ⟨⟨⟨?_, ?_⟩, ?_⟩, ?_⟩ <;> rintro rfl <;> exact absurd digit (by decide)
  · rintro rfl
    exact absurd digit (by decide)
  · rintro rfl
    exact absurd digit (by decide)

theorem exists_write_eq_cons (json : Json) :
    ∃ c more, write json = c :: more ∧ isSpace c = false ∧ c ≠ ',' ∧ c ≠ ']' := by
  cases json with
  | null => exact ⟨'n', _, rfl, by decide⟩
  | bool value => cases value <;> exact ⟨_, _, rfl, by decide⟩
  | number number =>
    rw [write_number, Number.write]
    cases number.negative with
    | true => exact ⟨'-', _, rfl, by decide⟩
    | false =>
      -- Without a sign the first character is a digit.
      obtain ⟨c, more, written⟩ :=
        List.exists_cons_of_ne_nil (Nat.toDigits_ne_nil (b := 10) (n := number.whole))
      have digit : c.isDigit = true := isDigit_of_mem_toDigits c (written ▸ List.mem_cons_self)
      exact ⟨c, _, by rw [written]; rfl, not_mark_of_isDigit digit⟩
  | string text => exact ⟨'"', _, rfl, by decide⟩
  | array items => exact ⟨'[', _, rfl, by decide⟩
  | object members => exact ⟨'\x7b', _, rfl, by decide⟩

section
variable {α β : Type} {json : Json} {value : α}

theorem Reads.map {reader : Reader α} (reads : Reads reader json value) (change : α → β) :
    Reads (change <$> reader) json (change value) :=
  fun _ ends => map_of_read change (reads ends)

theorem reads_text (text : String) : Reads readText (.string text) text := by
  intro rest ends
  rw [write_string, writeText, List.append_assoc, List.cons_append]
  exact readStringBody_escape text rest

theorem reads_optional (text : String) : Reads (readOptional readText) (.string text) (some text) := by
  intro rest ends
  have read := reads_text text ends
  rw [write_string, writeText, List.append_assoc, List.cons_append] at read ⊢
  exact map_of_read some read

theorem skipSpace_of_not_isSpace {c : Char} {text : List Char} (solid : isSpace c = false) :
    skipSpace (c :: text) = c :: text := by
  simp [skipSpace, solid]

theorem reads_uint64 (n : UInt64) : Reads readUInt64 (.nat n.toNat) n := by
  intro rest ends
  have read := readNumber_toDigits n.toNat_lt ends
  obtain ⟨c, more, written⟩ :=
    List.exists_cons_of_ne_nil (Nat.toDigits_ne_nil (b := 10) (n := n.toNat))
  have digit : c.isDigit = true := isDigit_of_mem_toDigits c (written ▸ List.mem_cons_self)
  have solid := (not_mark_of_isDigit digit).1
  have start : startsNumber c = true := by simp [startsNumber, digit]
  have text : write (.nat n.toNat) = Nat.toDigits 10 n.toNat := by simp [nat, write_number, Number.write]
  rw [text]
  rw [written, List.cons_append] at read ⊢
  unfold readUInt64
  simp only [skipSpace_of_not_isSpace solid, start, if_true]
  have small : n.toNat < UInt64.size := n.toNat_lt
  simp [read, bind, Except.bind, Number.toNat?, small, pure, Except.pure]
end

/-! Lists and objects. -/

def afterComma (written : List Char) : List Char :=
  if written = [] then [] else ',' :: written

section Sequences
variable {α σ : Type}

theorem writeItems_cons (item : Json) (items : List Json) :
    writeItems (item :: items) = write item ++ afterComma (writeItems items) := by
  cases items with
  | nil => simp [writeItems, afterComma]
  | cons next items =>
    have nonempty : writeItems (next :: items) ≠ [] := by
      obtain ⟨c, more, written, _⟩ := exists_write_eq_cons next
      cases items <;> simp [writeItems, written]
    rw [writeItems, afterComma, if_neg nonempty]
    exact List.cons_ne_nil _ _

theorem ends_afterComma (written : List Char) {close : Char} (rest : List Char)
    (closes : close = ']' ∨ close = '\x7d') :
    Ends (afterComma written ++ close :: rest) := by
  intro c head
  unfold afterComma at head
  split at head
  · obtain rfl : c = close := by simpa using head.symm
    exact .inr closes
  · exact .inl (by simpa using head.symm)

theorem itemAhead_first (json : Json) (after : List Char) :
    itemAhead? true (write json ++ after) = .ok (some (write json ++ after)) := by
  obtain ⟨c, more, written, solid, comma, close⟩ := exists_write_eq_cons json
  rw [written, List.cons_append, itemAhead?, skipSpace_of_not_isSpace solid]
  split
  · contradiction
  · next same => exact absurd (List.cons.inj same).1 close
  · next same => exact absurd (List.cons.inj same).1 comma
  · rfl

theorem itemAhead_next (json : Json) (after : List Char) :
    itemAhead? false (',' :: (write json ++ after)) = .ok (some (write json ++ after)) := by
  obtain ⟨c, more, written, solid, _, close⟩ := exists_write_eq_cons json
  have comma : isSpace ',' = false := by decide
  rw [written, List.cons_append, itemAhead?, skipSpace_of_not_isSpace comma]
  simp only [skipSpace_of_not_isSpace solid, if_neg close]

variable {item : Reader α}

theorem readItems_cons {json : Json} {value : α} {first : Bool} {text after : List Char}
    (ahead : itemAhead? first text = .ok (some (write json ++ after)))
    (reads : Reads item json value) (ends : Ends after) (shorter : after.length < text.length) :
    readItems item first text =
      (readItems item false after).map fun read => (value :: read.1, read.2) := by
  rw [readItems, ahead]
  show (item (write json ++ after) >>= _) = _
  rw [reads ends]
  show (if after.length < text.length then _ else _) = _
  rw [if_pos shorter]
  cases readItems item false after <;> rfl

theorem readItems_afterComma {jsons : List Json} {values : List α}
    (each : List.Forall₂ (Reads item) jsons values) (rest : List Char) :
    readItems item false (afterComma (writeItems jsons) ++ ']' :: rest) =
      .ok (values, ']' :: rest) := by
  induction each with
  | nil =>
    rw [readItems]
    rfl
  | @cons json value jsons values reads _ ih =>
    obtain ⟨c, more, written, _⟩ := exists_write_eq_cons json
    have text : afterComma (writeItems (json :: jsons)) ++ ']' :: rest =
        ',' :: (write json ++ (afterComma (writeItems jsons) ++ ']' :: rest)) := by
      rw [writeItems_cons, afterComma, if_neg (by simp [written])]
      simp
    -- Items are read as long as there is less text each time.
    have shorter : (afterComma (writeItems jsons) ++ ']' :: rest).length <
        (',' :: (write json ++ (afterComma (writeItems jsons) ++ ']' :: rest))).length := by
      simp only [List.length_append, List.length_cons]
      omega
    rw [text, readItems_cons (itemAhead_next json _) reads (ends_afterComma _ _ (.inl rfl)) shorter,
      ih]
    rfl

theorem readItems_write {jsons : List Json} {values : List α}
    (each : List.Forall₂ (Reads item) jsons values) (rest : List Char) :
    readItems item true (writeItems jsons ++ ']' :: rest) = .ok (values, ']' :: rest) := by
  cases each with
  | nil =>
    rw [readItems]
    rfl
  | @cons json value jsons values reads others =>
    obtain ⟨c, more, written, _⟩ := exists_write_eq_cons json
    have shorter : (afterComma (writeItems jsons) ++ ']' :: rest).length <
        (write json ++ (afterComma (writeItems jsons) ++ ']' :: rest)).length := by
      simp only [written, List.length_append, List.length_cons]
      omega
    rw [writeItems_cons, List.append_assoc, readItems_cons (itemAhead_first json _) reads
      (ends_afterComma _ _ (.inl rfl)) shorter, readItems_afterComma others]
    rfl

theorem readMark_cons {mark : Char} (solid : isSpace mark = false) (rest : List Char) :
    readMark mark (mark :: rest) = .ok ((), rest) := by
  simp [readMark, skipSpace_of_not_isSpace solid]

theorem reads_list {values : List α} {toJson : α → Json}
    (each : ∀ value ∈ values, Reads item (toJson value) value) :
    Reads (readList item) (.array (values.map toJson)) values := by
  intro rest ends
  have listed : List.Forall₂ (Reads item) (values.map toJson) values := by
    rw [List.forall₂_map_left_iff, List.forall₂_same]
    exact each
  have read := readItems_write listed rest
  have opened : isSpace '[' = false := by decide
  rw [write_array, List.cons_append, List.cons_append, List.append_assoc, readList,
    skipSpace_of_not_isSpace opened]
  exact (congrArg (· >>= _) read).trans rfl

/-! Objects. -/

/-- The members of an object are taken in one by one, which turns `before` into `after`. -/
inductive Fills (member : σ → String → Except Fault (Reader σ)) :
    List (String × Json) → σ → σ → Prop where
  | nil {state : σ} : Fills member [] state state
  | cons {key : String} {json : Json} {members : List (String × Json)} {before middle after : σ}
      {reader : Reader σ} : member before key = .ok reader → Reads reader json middle →
      Fills member members middle after → Fills member ((key, json) :: members) before after

variable {member : σ → String → Except Fault (Reader σ)}

theorem writeMembers_cons (key : String) (json : Json) (members : List (String × Json)) :
    writeMembers ((key, json) :: members) =
      writeText key ++ ':' :: (write json ++ afterComma (writeMembers members)) := by
  cases members with
  | nil => simp [writeMembers, afterComma]
  | cons next members =>
    have nonempty : writeMembers (next :: members) ≠ [] := by
      cases members <;> simp [writeMembers, writeText]
    rw [writeMembers, afterComma, if_neg nonempty]
    exact List.cons_ne_nil _ _

theorem keyAhead_first (key : String) (more : List Char) :
    keyAhead? true (writeText key ++ more) = .ok (some (key.toList.flatMap escape ++ '"' :: more)) := by
  simp [keyAhead?, writeText, skipSpace, isSpace]

theorem keyAhead_next (key : String) (more : List Char) :
    keyAhead? false (',' :: (writeText key ++ more)) =
      .ok (some (key.toList.flatMap escape ++ '"' :: more)) := by
  simp [keyAhead?, writeText, skipSpace, isSpace]

theorem readMembers_cons {key : String} {json : Json} {reader : Reader σ} {before middle : σ}
    {first : Bool} {text after : List Char}
    (ahead : keyAhead? first text =
      .ok (some (key.toList.flatMap escape ++ '"' :: ':' :: (write json ++ after))))
    (known : member before key = .ok reader) (reads : Reads reader json middle)
    (ends : Ends after) (shorter : after.length < text.length) :
    readMembers readStringBody member before first text =
      readMembers readStringBody member middle false after := by
  have colon : isSpace ':' = false := by decide
  rw [readMembers]
  simp only [ahead, ok_bind, readStringBody_escape, known, readMark_cons colon, reads ends,
    if_pos shorter]

theorem readMembers_afterComma {members : List (String × Json)} {before after : σ}
    (fills : Fills member members before after) (rest : List Char) :
    readMembers readStringBody member before false
        (afterComma (writeMembers members) ++ '\x7d' :: rest) =
      .ok (after, '\x7d' :: rest) := by
  induction fills with
  | nil =>
    rw [readMembers]
    rfl
  | @cons key json members before middle after reader known reads _ ih =>
    have text : afterComma (writeMembers ((key, json) :: members)) ++ '\x7d' :: rest =
        ',' :: (writeText key ++
          ':' :: (write json ++ (afterComma (writeMembers members) ++ '\x7d' :: rest))) := by
      rw [writeMembers_cons, afterComma, if_neg (by simp)]
      simp
    rw [text, readMembers_cons (keyAhead_next key _) known reads (ends_afterComma _ rest (.inr rfl)),
      ih]
    simp only [List.length_append, List.length_cons]
    omega

theorem readMembers_write {members : List (String × Json)} {before after : σ}
    (fills : Fills member members before after) (rest : List Char) :
    readMembers readStringBody member before true (writeMembers members ++ '\x7d' :: rest) =
      .ok (after, '\x7d' :: rest) := by
  cases fills with
  | nil =>
    rw [readMembers]
    rfl
  | @cons key json members _ middle _ reader known reads others =>
    have text : writeMembers ((key, json) :: members) ++ '\x7d' :: rest =
        writeText key ++
          ':' :: (write json ++ (afterComma (writeMembers members) ++ '\x7d' :: rest)) := by
      rw [writeMembers_cons]
      simp
    rw [text, readMembers_cons (keyAhead_first key _) known reads (ends_afterComma _ rest (.inr rfl)),
      readMembers_afterComma others]
    simp only [List.length_append, List.length_cons]
    omega

theorem reads_record {members elements : Reader α} {fields : List (String × Json)} {record : α}
    (read : ∀ rest, members (writeMembers fields ++ '\x7d' :: rest) = .ok (record, '\x7d' :: rest)) :
    Reads (readRecord members elements) (.object fields) record := by
  intro rest ends
  have opened : isSpace '\x7b' = false := by decide
  rw [write_object, List.cons_append, List.cons_append, List.append_assoc, readRecord,
    skipSpace_of_not_isSpace opened]
  exact (congrArg (· >>= _) (read rest)).trans rfl

end Sequences

end GraphQuery.Json
