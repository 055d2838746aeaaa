import GraphQuery.Json.Scanner

/-! Reading JSON text: lists, objects and whole values, of a given shape or of any. -/

set_option autoImplicit false

namespace GraphQuery.Json

variable {α σ κ : Type}

/-! Sequences. -/

/-- Whether a list goes on: the text of its next item, or nothing before its closing bracket. -/
def itemAhead? (first : Bool) (text : List Char) : Except Fault (Option (List Char)) :=
  match skipSpace text with
  | [] => .error .malformed
  | ']' :: _ => .ok none
  | ',' :: rest =>
    match first, skipSpace rest with
    | false, c :: rest => if c = ']' then .error .malformed else .ok (some (c :: rest))
    | _, _ => .error .malformed
  | rest => if first then .ok (some rest) else .error .malformed

def readItems (item : Reader α) (first : Bool) (text : List Char) :
    Except Fault (List α × List Char) := do
  match ← itemAhead? first text with
  | none => pure ([], text)
  | some ahead =>
    let (value, rest) ← item ahead
    if rest.length < text.length then
      let (more, rest) ← readItems item false rest
      pure (value :: more, rest)
    else throw .malformed
termination_by text.length

def readItem? (item : Reader α) (first : Bool) : Reader (Option α) := fun text => do
  match ← itemAhead? first text with
  | none => pure (none, text)
  | some ahead =>
    let (value, rest) ← item ahead
    pure (some value, rest)

/-- Whether an object goes on: the text after the opening quote of its next key, or nothing
before its closing bracket. -/
def keyAhead? (first : Bool) (text : List Char) : Except Fault (Option (List Char)) :=
  match skipSpace text with
  | '\x7d' :: _ => .ok none
  | '"' :: rest => if first then .ok (some rest) else .error .malformed
  | ',' :: rest =>
    match first, skipSpace rest with
    | false, '"' :: rest => .ok (some rest)
    | _, _ => .error .malformed
  | _ => .error .malformed

/-- The members of an object whose opening bracket has been read, up to the closing one. A key
decides, from the members before it, how its value is read or that it must not stand here. -/
def readMembers (key : Reader κ) (member : σ → κ → Except Fault (Reader σ)) (state : σ)
    (first : Bool) (text : List Char) : Except Fault (σ × List Char) := do
  match ← keyAhead? first text with
  | none => pure (state, text)
  | some ahead =>
    let (found, rest) ← key ahead
    let value ← member state found
    let (_, rest) ← readMark ':' rest
    let (state, rest) ← value rest
    if rest.length < text.length then readMembers key member state false rest
    else throw .malformed
termination_by text.length

/-! Values of any shape. -/

def readValue (depth : Nat) : Reader Json := fun text =>
  match skipSpace text with
  | [] => .error .malformed
  | c :: rest =>
    match c, depth with
    | 'n', _ => (fun read => (.null, read.2)) <$> readExact "ull".toList rest
    | 't', _ => (fun read => (.bool true, read.2)) <$> readExact "rue".toList rest
    | 'f', _ => (fun read => (.bool false, read.2)) <$> readExact "alse".toList rest
    | '"', _ => (fun read => (.string read.1, read.2)) <$> readStringBody rest
    | '[', depth + 1 => do
      let (items, rest) ← readItems (readValue depth) true rest
      let (_, rest) ← readMark ']' rest
      pure (.array items, rest)
    | '\x7b', depth + 1 => do
      let member := fun members key => .ok fun text => do
        let (value, rest) ← readValue depth text
        pure ((key, value) :: members, rest)
      let (members, rest) ← readMembers readStringBody member [] true rest
      let (_, rest) ← readMark '\x7d' rest
      pure (.object members.reverse, rest)
    | c, _ =>
      if startsNumber c then (fun read => (.number read.1, read.2)) <$> readNumber (c :: rest)
      else .error .malformed

def skipString : Reader Unit := fun text =>
  (fun read => ((), read.2)) <$> readUntilQuote skipStringChar text

/-- Reads past any value with at most `depth` arrays and objects inside one another, without
looking at what it says. -/
def skipValue (depth : Nat) : Reader Unit := fun text =>
  match skipSpace text with
  | [] => .error .malformed
  | c :: rest =>
    match c, depth with
    | 'n', _ => readExact "ull".toList rest
    | 't', _ => readExact "rue".toList rest
    | 'f', _ => readExact "alse".toList rest
    | '"', _ => skipString rest
    | '[', depth + 1 => do
      let (_, rest) ← readItems (skipValue depth) true rest
      readMark ']' rest
    | '\x7b', depth + 1 => do
      let (_, rest) ← readMembers skipString (fun _ _ => .ok (skipValue depth)) () true rest
      readMark '\x7d' rest
    | c, _ =>
      if startsNumber c then (fun read => ((), read.2)) <$> readNumberText (c :: rest)
      else .error .malformed

def skipAny : Reader Unit := fun text =>
  skipValue text.length text

/-! Values of a given shape. -/

/-- The fault of a value that is not of the shape asked for. Of a list or an object nothing
more is read. -/
def misfit (text : List Char) : Fault :=
  match skipSpace text with
  | '[' :: _ | '\x7b' :: _ => .wrongShape
  | text =>
    match readValue 0 text with
    | .ok _ => .wrongShape
    | .error fault => fault

def readText : Reader String := fun text =>
  match skipSpace text with
  | '"' :: rest => readStringBody rest
  | text => .error (misfit text)

def readUInt64 : Reader UInt64 := fun text =>
  match skipSpace text with
  | c :: rest =>
    if startsNumber c then do
      let (written, rest) ← readNumber (c :: rest)
      match written.toNat? with
      | some n => if n < UInt64.size then pure (n.toUInt64, rest) else throw .wrongShape
      | none => throw .wrongShape
    else .error (misfit (c :: rest))
  | [] => .error .malformed

def readOptional (value : Reader α) : Reader (Option α) := fun text =>
  match skipSpace text with
  | 'n' :: rest => (fun read => (none, read.2)) <$> readExact "ull".toList rest
  | text => (fun read => (some read.1, read.2)) <$> value text

def readList (item : Reader α) : Reader (List α) := fun text =>
  match skipSpace text with
  | '[' :: rest => do
    let (items, rest) ← readItems item true rest
    let (_, rest) ← readMark ']' rest
    pure (items, rest)
  | text => .error (misfit text)

/-- A record written as an object, or as the list of its fields. -/
def readRecord (members elements : Reader α) : Reader α := fun text =>
  match skipSpace text with
  | '\x7b' :: rest => do
    let (record, rest) ← members rest
    let (_, rest) ← readMark '\x7d' rest
    pure (record, rest)
  | '[' :: rest => do
    let (record, rest) ← elements rest
    let (_, rest) ← readMark ']' rest
    pure (record, rest)
  | text => .error (misfit text)

def readField (given : Option α) (value : Reader α) (put : α → σ) : Except Fault (Reader σ) :=
  if given.isSome then .error .wrongShape else .ok (put <$> value)

def required (given : Option α) : Except Fault α :=
  match given with
  | some value => .ok value
  | none => .error .wrongShape

def readRequiredItem (item : Reader α) (first : Bool) : Reader α := do
  required (← readItem? item first)

def readPrefix (value : Reader α) (text : String) : Except Fault α :=
  (value text.toList).map (·.1)

def readWholeText (value : Reader α) (text : String) : Except Fault α := do
  let (value, rest) ← value text.toList
  if skipSpace rest = [] then pure value else throw .malformed

def maxDepth : Nat := 127

def ofText? (text : String) : Except Fault Json :=
  readWholeText (readValue maxDepth) text

end GraphQuery.Json
