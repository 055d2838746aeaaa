/-! Media types, as in `application/json; charset=utf-8`. -/

set_option autoImplicit false

namespace GraphQuery.Http

def isTokenChar (c : Char) : Bool :=
  c.isAlphanum || "!#$%&'*+-.^_`|~".toList.contains c

def isVisible (c : Char) : Bool :=
  0x20 ≤ c.toNat && c.toNat ≤ 0x7E

/-- Whether a text is the rest of a quoted value, with what may follow it: spaces, and a
semicolon before another parameter. Yields what follows the semicolon. -/
def afterQuoted? (text : List Char) : Option (List Char) :=
  match text.dropWhile (· != '"') with
  | [] => none
  | _ :: rest =>
    match rest.dropWhile (· == ' ') with
    | [] => some []
    | ';' :: rest => some rest
    | _ => none

/-- What follows the value of a parameter and its semicolon. A quoted value has at least one
character, which may itself be a quote. -/
def afterValue? (text : List Char) : Option (List Char) :=
  match text with
  | ['"'] => none
  | '"' :: _ :: quoted => afterQuoted? quoted
  | text =>
    match text.dropWhile isTokenChar with
    | [] => some []
    | ';' :: rest => if text.takeWhile isTokenChar = [] then none else some rest
    | _ => none

def areParameters (fuel : Nat) (text : List Char) : Bool :=
  match fuel, text.dropWhile (· == ' ') with
  | _, [] => true
  | 0, _ => false
  | fuel + 1, text =>
    match text.takeWhile isTokenChar, text.dropWhile isTokenChar with
    | _ :: _, '=' :: value =>
      match afterValue? value with
      | some rest => areParameters fuel rest
      | none => false
    | _, _ => false

/-- What stands before the last plus sign of a name and what stands behind it. A plus sign at
the start counts as any other character. -/
def splitSuffix (name : List Char) : List Char × Option (List Char) :=
  match name.reverse.dropWhile (· != '+') with
  | '+' :: c :: before => ((c :: before).reverse, some (name.reverse.takeWhile (· != '+')).reverse)
  | _ => (name, none)

def lowerAscii (text : List Char) : String :=
  .ofList (text.map Char.toLower)

/-- Whether a media type is `application/json` or `application/<name>+json`, in any letter case
and with any parameters. -/
def isJsonMediaType (value : String) : Bool :=
  let text := value.toList
  if !text.all isVisible then false
  else
    match text.dropWhile isTokenChar with
    | '/' :: rest =>
      let name := rest.takeWhile isTokenChar
      let parameters := match rest.dropWhile isTokenChar with
        | [] => true
        | ';' :: rest => areParameters rest.length rest
        | _ => false
      let (main, suffix) := splitSuffix name
      !name.isEmpty && parameters
        && lowerAscii (text.takeWhile isTokenChar) == "application"
        && (lowerAscii main == "json" || suffix.map lowerAscii == some "json")
    | _ => false

end GraphQuery.Http
