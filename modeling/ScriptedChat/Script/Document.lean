import ScriptedChat.Json.Shape
import ScriptedChat.Script.Block

/-!
The JSON form of scripts. A block is one object that holds the members of its kind beside its
own: `type` tells the kind, and a selection has its `options`. All that a block does not know
is passed over, but it has to be sound JSON.
-/
namespace ScriptedChat

namespace Choice

def shape : Shape Choice :=
  ((Shape.field "text" Decoder.text).both (.field "next" Decoder.uint32)).map
    fun (text, next) => ⟨text, next⟩

def decode : Decoder Choice := shape.decode

def toJson (c : Choice) : Json :=
  .object [("text", .string c.text), ("next", .nat c.next.toNat)]

end Choice

namespace EntryPoint

def shape : Shape EntryPoint :=
  ((Shape.field "key" Decoder.text).both (.field "state" Decoder.uint32)).map
    fun (key, state) => ⟨key, state⟩

def decode : Decoder EntryPoint := shape.decode

def toJson (e : EntryPoint) : Json :=
  .object [("key", .string e.key), ("state", .nat e.state.toNat)]

end EntryPoint

namespace Mailing

def shape : Shape Mailing :=
  ((Shape.field "name" Decoder.text).both
    ((Shape.field "entry_key" Decoder.text).both (.field "required_state" Decoder.uint32))).map
    fun (name, entryKey, requiredState) => ⟨name, entryKey, requiredState⟩

def decode : Decoder Mailing := shape.decode

def toJson (m : Mailing) : Json :=
  .object [("name", .string m.name), ("entry_key", .string m.entryKey),
    ("required_state", .nat m.requiredState.toNat)]

end Mailing

/-- Names of the kinds of blocks. -/
inductive BlockType
  | message
  | question
  | selection

/-- A kind of block by name or by its place among the kinds. -/
def BlockType.decode : Decoder BlockType
  | .string "message" | .integer 0 => .ok .message
  | .string "question" | .integer 1 => .ok .question
  | .string "selection" | .integer 2 => .ok .selection
  | j => .error j.fault

namespace Block

/-- The members of a block that were met so far. -/
structure Slots where
  state : Option State := none
  next : Option State := none
  title : Option String := none
  text : Option String := none
  /-- The members of the kind, and unknown ones. -/
  others : List (String × Json) := []

/-- The value of a field that may come once. -/
def once {α : Type} (slot : Option α) (value : Decoder α) (j : Json) :
    Except DecodeFault (Option α) :=
  if slot.isSome then .error .mismatch else (value j).map some

def member (slots : Slots) (m : String × Json) : Except DecodeFault Slots := do
  match m.1 with
  | "state" => return { slots with state := ← once slots.state Decoder.uint32 m.2 }
  | "next_state" => return { slots with next := ← once slots.next Decoder.uint32 m.2 }
  | "title" => return { slots with title := ← once slots.title Decoder.text m.2 }
  | "text" => return { slots with text := ← once slots.text Decoder.text m.2 }
  | key => return { slots with others := slots.others ++ [(key, ← Decoder.document m.2)] }

/-- The only value of a member. -/
def single (name : String) (members : List (String × Json)) : Except DecodeFault Json :=
  match members.filter (·.1 == name) with
  | [m] => .ok m.2
  | _ => .error .mismatch

def decodeChoices (j : Json) : Except DecodeFault (List Choice) :=
  match Decoder.list Choice.decode j with
  | .ok choices => .ok choices
  | .error _ => .error .mismatch

def decodeKind (members : List (String × Json)) : Except DecodeFault BlockKind := do
  match ← BlockType.decode (← single "type" members) with
  | .message => return .message
  | .question => return .question
  | .selection => return .selection (← decodeChoices (← single "options" members))

def decode : Decoder Block
  | .object members => do
    let slots ← members.foldlM member {}
    let state ← Shape.missing slots.state
    let next ← Shape.missing slots.next
    return ⟨state, next, slots.title.getD "", slots.text.getD "", ← decodeKind slots.others⟩
  | j => .error j.fault

def kindMembers : BlockKind → List (String × Json)
  | .message => [("type", .string "message")]
  | .question => [("type", .string "question")]
  | .selection choices =>
    [("type", .string "selection"), ("options", .list Choice.toJson choices)]

def toJson (b : Block) : Json :=
  .object ([("state", .nat b.state.toNat), ("next_state", .nat b.next.toNat),
    ("title", .string b.title), ("text", .string b.text)] ++ kindMembers b.kind)

end Block

/-- Everything that an operator writes for a bot. -/
structure ScriptDocument where
  entries : List EntryPoint
  blocks : List Block
  mailings : List Mailing

namespace ScriptDocument

def shape : Shape ScriptDocument :=
  ((Shape.field "entry_points" (.list EntryPoint.decode)).both
    ((Shape.field "blocks" (.list Block.decode)).both
      (.field "mailings" (.list Mailing.decode) (some [])))).map
    fun (entries, blocks, mailings) => ⟨entries, blocks, mailings⟩

def decode : Decoder ScriptDocument := shape.decode

def members (d : ScriptDocument) : List (String × Json) :=
  [("entry_points", .list EntryPoint.toJson d.entries), ("blocks", .list Block.toJson d.blocks),
    ("mailings", .list Mailing.toJson d.mailings)]

def toJson (d : ScriptDocument) : Json := .object d.members

end ScriptDocument

end ScriptedChat
