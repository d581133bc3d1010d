import ScriptedChat.Binary64

/-!
JSON documents as they are read. Members of an object stay in the order of the text, also when
a key repeats. Three marks stand for text that is not a document: `torn` where it stops being
JSON, `spoiled` for a value that is formed well but denotes nothing, such as half of a
surrogate pair or a number that is too great, and `unnamed` for a value behind a key that
denotes nothing. A `clean?` document has no marks and no key twice.
-/
namespace ScriptedChat

inductive Json
  | null
  | bool (value : Bool)
  /-- An integer of 64 bits, with or without sign. -/
  | integer (value : Int)
  /-- Any other number, by its sign and its magnitude. -/
  | decimal (negative : Bool) (magnitude : Binary64)
  | string (text : String)
  | array (items : List Json)
  | object (members : List (String × Json))
  | spoiled
  | unnamed
  | torn

namespace Json

instance : Inhabited Json := ⟨.null⟩

mutual

/-- Whether the text breaks off inside a document. -/
def isTorn : Json → Bool
  | .torn => true
  | .array items => anyTorn items
  | .object members => anyMemberTorn members
  | _ => false

def anyTorn : List Json → Bool
  | [] => false
  | j :: rest => j.isTorn || anyTorn rest

def anyMemberTorn : List (String × Json) → Bool
  | [] => false
  | (_, j) :: rest => j.isTorn || anyMemberTorn rest

end

mutual

/-- Whether a document has no mark anywhere. -/
def isSound : Json → Bool
  | .torn | .spoiled | .unnamed => false
  | .array items => allSound items
  | .object members => allMembersSound members
  | _ => true

def allSound : List Json → Bool
  | [] => true
  | j :: rest => j.isSound && allSound rest

def allMembersSound : List (String × Json) → Bool
  | [] => true
  | (_, j) :: rest => j.isSound && allMembersSound rest

end

mutual

/-- The document without repeated keys, of which the last stays, if it has no marks. -/
def clean? : Json → Option Json
  | .torn | .spoiled | .unnamed => none
  | .array items => (cleanItems? items).map .array
  | .object members => (cleanMembers? members).map .object
  | j => some j

def cleanItems? : List Json → Option (List Json)
  | [] => some []
  | j :: rest => return (← j.clean?) :: (← cleanItems? rest)

def cleanMembers? : List (String × Json) → Option (List (String × Json))
  | [] => some []
  | (k, j) :: rest => do
    let value ← j.clean?
    let members ← cleanMembers? rest
    return if members.any (·.1 == k) then members else (k, value) :: members

end

mutual

/-- Whether a test holds of some text in a document, keys included. -/
def anyText (p : String → Bool) : Json → Bool
  | .string s => p s
  | .array items => anyItemText p items
  | .object members => anyMemberText p members
  | _ => false

def anyItemText (p : String → Bool) : List Json → Bool
  | [] => false
  | j :: rest => j.anyText p || anyItemText p rest

def anyMemberText (p : String → Bool) : List (String × Json) → Bool
  | [] => false
  | (k, j) :: rest => p k || j.anyText p || anyMemberText p rest

end

mutual

/-- The document with every text replaced, keys excepted. -/
def mapText (f : String → String) : Json → Json
  | .string s => .string (f s)
  | .array items => .array (mapItemText f items)
  | .object members => .object (mapMemberText f members)
  | j => j

def mapItemText (f : String → String) : List Json → List Json
  | [] => []
  | j :: rest => j.mapText f :: mapItemText f rest

def mapMemberText (f : String → String) : List (String × Json) → List (String × Json)
  | [] => []
  | (k, j) :: rest => (k, j.mapText f) :: mapMemberText f rest

end

/-- The value of a member of an object. -/
def field? (j : Json) (name : String) : Option Json :=
  match j with
  | .object members => (members.find? (·.1 == name)).map (·.2)
  | _ => none

def isNull : Json → Bool
  | .null => true
  | _ => false

def nat (n : Nat) : Json := .integer n

/-- The array of the documents of a list of values. -/
def list {α : Type} (f : α → Json) (l : List α) : Json := .array (l.map f)

/-- The document of a value that may be missing. -/
def option {α : Type} (f : α → Json) : Option α → Json
  | none => .null
  | some a => f a

end Json

end ScriptedChat
