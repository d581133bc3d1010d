import ScriptedChat.Script.Painter

/-!
Scripts: blocks under their states and entry points under their keys. `build` accepts lists
that obey every rule and names the first fault of others; `restore` takes lists as they are,
and of two items under one key the later stays.
-/
namespace ScriptedChat

structure Script where
  entries : EntryPoints
  blocks : Blocks
  deriving DecidableEq

namespace Script

/-- A script without any checks. -/
def restore (entries : List EntryPoint) (blocks : List Block) : Script :=
  ⟨.ofList entries, .ofList blocks⟩

/-- Adds a block that obeys the field rules and whose state is free. -/
def addBlock (blocks : Blocks) (b : Block) : Except Error Blocks := do
  b.check
  if blocks.contains b.state then .error (.blockDuplicated b.state) else .ok (blocks.insert b)

/-- Adds an entry point that has a key of its own and a target. -/
def addEntry (entries : EntryPoints) (e : EntryPoint) : Except Error EntryPoints :=
  if e.key = "" then .error (.invalidInput .emptyEntryKey)
  else if e.state = finished then .error (.invalidInput (.entryWithoutTarget e.key))
  else if entries.contains e.key then .error (.entryDuplicated e.key)
  else .ok (entries.insert e)

/-- A script that obeys every rule: those for fields, blocks before entry points, and then
those for the graph. -/
def build (entries : List EntryPoint) (blocks : List Block) (cycles : CyclePolicy) :
    Except Error Script := do
  let blocks ← blocks.foldlM addBlock .empty
  if entries.isEmpty then throw (.invalidInput .noEntryPoint)
  let entries ← entries.foldlM addEntry .empty
  blocks.checkGraph entries cycles
  return ⟨entries, blocks⟩

def block? (script : Script) (s : State) : Option Block := script.blocks.get? s

def entry? (script : Script) (key : String) : Option EntryPoint := script.entries.get? key

/-- The blocks that wait for an answer, in the order of their states. -/
def questions (script : Script) : List Block := script.blocks.rows.filter (!·.isMessage)

end Script

end ScriptedChat
