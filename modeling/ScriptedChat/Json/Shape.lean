import ScriptedChat.Uuid
import ScriptedChat.Json.Basic

/-!
Shapes of records in JSON. A record is written as an object whose members come in any order,
where unknown ones are passed over, or as an array of its fields in their order. Decoding goes
through a document in the order of its text and stops at the first fault, which is either that
the text is no JSON or that a value is not of the expected kind.
-/
namespace ScriptedChat

/-- Why a document is refused. -/
inductive DecodeFault
  /-- The text is no JSON. -/
  | malformed
  /-- The text is JSON of the wrong kind. -/
  | mismatch
  deriving DecidableEq, Repr

abbrev Decoder (α : Type) := Json → Except DecodeFault α

namespace Json

/-- The fault of a value that is not of the expected kind. -/
def fault : Json → DecodeFault
  | .torn | .unnamed | .spoiled => .malformed
  | _ => .mismatch

end Json

namespace Decoder

def text : Decoder String
  | .string s => .ok s
  | j => .error j.fault

def bool : Decoder Bool
  | .bool b => .ok b
  | j => .error j.fault

/-- An integer between two bounds, the second excluded. -/
def integer (low high : Int) : Decoder Int
  | .integer n => if low ≤ n ∧ n < high then .ok n else .error .mismatch
  | j => .error j.fault

def uint32 : Decoder UInt32 := fun j =>
  (integer 0 UInt32.size j).map fun n => UInt32.ofNat n.toNat

def int64 : Decoder Int64 := fun j =>
  (integer Int64.minValue.toInt (Int64.maxValue.toInt + 1) j).map Int64.ofInt

def uuid : Decoder Uuid := fun j => do
  match Uuid.ofText? (← text j) with
  | some u => .ok u
  | none => .error .mismatch

def list {α : Type} (item : Decoder α) : Decoder (List α)
  | .array items => items.mapM item
  | j => .error j.fault

/-- A value or null. -/
def nullable {α : Type} (value : Decoder α) : Decoder (Option α)
  | .null => .ok none
  | j => (value j).map some

/-- Any value at all, as long as the text does not break off in it. -/
def anything : Decoder Unit := fun j => if j.isTorn then .error .malformed else .ok ()

/-- Any value without marks, as it stands. -/
def document : Decoder Json := fun j => if j.isSound then .ok j else .error .malformed

end Decoder

/-- How a record is put together from the members of an object or the items of an array. -/
structure Shape (α : Type) where
  /-- The fields that were met so far. -/
  Slots : Type
  empty : Slots
  /-- Takes in a member; `none` when its name is no field's. -/
  put : String → Json → Slots → Option (Except DecodeFault Slots)
  finish : Slots → Except DecodeFault α
  /-- Takes the fields from the front of an array. -/
  row : List Json → Except DecodeFault (α × List Json)

namespace Shape

variable {α β : Type}

/-- The value of a field that was not given. -/
def missing (default : Option α) : Except DecodeFault α :=
  match default with
  | some a => .ok a
  | none => .error .mismatch

/-- One field; it may be absent when there is a default, and it may not come twice. -/
def field (name : String) (value : Decoder α) (default : Option α := none) : Shape α where
  Slots := Option α
  empty := none
  put key j slot :=
    if key = name then
      some (if slot.isSome then .error .mismatch else (value j).map some)
    else none
  finish slot :=
    match slot with
    | some a => .ok a
    | none => missing default
  row items :=
    match items with
    | [] => (missing default).map fun a => (a, [])
    | j :: rest => (value j).map fun a => (a, rest)

/-- The fields of two shapes, one after the other. -/
def both (s : Shape α) (t : Shape β) : Shape (α × β) where
  Slots := s.Slots × t.Slots
  empty := (s.empty, t.empty)
  put key j slots :=
    match s.put key j slots.1 with
    | some r => some (r.map fun x => (x, slots.2))
    | none => (t.put key j slots.2).map fun r => r.map fun y => (slots.1, y)
  finish slots := do return (← s.finish slots.1, ← t.finish slots.2)
  row items := do
    let (a, rest) ← s.row items
    let (b, rest) ← t.row rest
    return ((a, b), rest)

/-- A record made from the fields of a shape. -/
def map (s : Shape α) (f : α → β) : Shape β where
  Slots := s.Slots
  empty := s.empty
  put := s.put
  finish slots := (s.finish slots).map f
  row items := (s.row items).map fun (a, rest) => (f a, rest)

/-- Takes in one member of an object. Every member needs a name, also one that is passed over. -/
def member (s : Shape α) (slots : s.Slots) (m : String × Json) : Except DecodeFault s.Slots :=
  match m.2, s.put m.1 m.2 slots with
  | .unnamed, _ => .error .malformed
  | _, some r => r
  | _, none => (Decoder.anything m.2).map fun _ => slots

/-- Decodes a record from an object or an array. An array that goes on after the last field is
malformed. -/
def decode (s : Shape α) : Decoder α
  | .object members => do s.finish (← members.foldlM s.member s.empty)
  | .array items => do
    let (a, rest) ← s.row items
    if rest.isEmpty then .ok a else .error .malformed
  | j => .error j.fault

end Shape

end ScriptedChat
