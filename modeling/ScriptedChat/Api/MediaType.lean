/-!
Media types as they stand in a content type header: a type, a subtype that may end in a suffix
behind a plus sign, and parameters. A body is read as JSON when the type is `application` and
the subtype or the suffix is `json`, in either case, and the whole header is well formed.
-/
namespace ScriptedChat.Api

structure MediaType where
  kind : String
  subtype : String
  suffixed : Option String

namespace MediaType

/-- Characters of names in headers. -/
def isTokenChar (c : Char) : Bool :=
  c.isAlphanum || "!#$%&'*+-.^_\x60|~".toList.contains c

/-- Characters inside a quoted value. -/
def isQuotedChar (c : Char) : Bool := 31 < c.toNat && c.toNat != 127

/-- The rest of a quoted value: what follows its closing quote. The value is not empty. -/
def afterQuoted : List Char → Option (List Char)
  | [] => none
  | c :: rest =>
    if isQuotedChar c then
      let tail := rest.dropWhile fun d => d != '"' && isQuotedChar d
      match tail with
      | '"' :: rest => some rest
      | _ => none
    else none

/-- Whether a text is a list of parameters behind a semicolon. Spaces may stand in front of a
name and behind a quoted value, and the list may be empty. -/
def areParameters (fuel : Nat) (text : List Char) : Bool :=
  match fuel with
  | 0 => false
  | fuel + 1 =>
    match text.dropWhile (· == ' ') with
    | [] => true
    | text =>
      let name := text.takeWhile isTokenChar
      match text.drop name.length with
      | '=' :: '"' :: value =>
        match afterQuoted value with
        | none => false
        | some rest =>
          match rest.dropWhile (· == ' ') with
          | [] => !name.isEmpty
          | ';' :: rest => !name.isEmpty && areParameters fuel rest
          | _ => false
      | '=' :: value =>
        let token := value.takeWhile isTokenChar
        match value.drop token.length with
        | [] => !name.isEmpty
        | ';' :: rest => !name.isEmpty && !token.isEmpty && areParameters fuel rest
        | _ => false
      | _ => false

/-- The subtype and its suffix, which starts at the last plus sign behind the first
character. -/
def splitSuffix (name : List Char) : List Char × Option (List Char) :=
  let suffix := (name.reverse.takeWhile (· != '+')).reverse
  let front := name.length - suffix.length
  if front ≤ 1 then (name, none) else (name.take (front - 1), some suffix)

def lower (text : List Char) : String := String.ofList (text.map Char.toLower)

def ofText? (s : String) : Option MediaType := do
  let text := s.toList
  let kind := text.takeWhile isTokenChar
  if kind.isEmpty then none
  match text.drop kind.length with
  | '/' :: rest =>
    let name := rest.takeWhile isTokenChar
    let (subtype, suffixed) := splitSuffix name
    let type : MediaType := ⟨lower kind, lower subtype, suffixed.map lower⟩
    match rest.drop name.length with
    | [] => some type
    | ';' :: rest => if !name.isEmpty && areParameters text.length rest then some type else none
    | _ => none
  | _ => none

def isJson (m : MediaType) : Bool :=
  m.kind == "application" && (m.subtype == "json" || m.suffixed == some "json")

end MediaType

end ScriptedChat.Api
