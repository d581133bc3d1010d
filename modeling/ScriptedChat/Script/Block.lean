import ScriptedChat.Error
import ScriptedChat.Table

/-!
The parts of a script. A block sends its text; a question and a selection then wait for an
answer, and a message goes straight on. Blocks name their successors by state, so a script is
a table of blocks and not a web of references.
-/
namespace ScriptedChat

/-- An answer that a selection offers, and where it leads. -/
structure Choice where
  text : String
  next : State
  deriving DecidableEq

inductive BlockKind
  | message
  | question
  | selection (choices : List Choice)
  deriving DecidableEq

structure Block where
  state : State
  next : State
  title : String
  text : String
  kind : BlockKind
  deriving DecidableEq

namespace Block

def isMessage (b : Block) : Bool :=
  match b.kind with
  | .message => true
  | _ => false

def choices (b : Block) : List Choice :=
  match b.kind with
  | .selection choices => choices
  | _ => []

/-- The texts of the choices, in their order. -/
def buttons (b : Block) : List String := b.choices.map Choice.text

/-- Where the block can lead, the choices first; the end of the script is among them. -/
def targets (b : Block) : List State := b.choices.map Choice.next ++ [b.next]

/-- Where an input leads: to the first choice with exactly this text, or else onwards. -/
def route (b : Block) (input : String) : State :=
  match b.choices.find? (·.text == input) with
  | some choice => choice.next
  | none => b.next

/-- The rules for the fields of one block. -/
def check (b : Block) : Except Error Unit :=
  if b.state = finished then .error (.invalidInput .zeroState)
  else
    match b.kind with
    | .message | .question =>
      if b.title = "" then .error (.invalidInput (.emptyTitle b.state))
      else if b.text = "" then .error (.invalidInput (.emptyText b.state))
      else .ok ()
    | .selection choices =>
      if choices = [] then .error (.invalidInput (.noOptions b.state))
      else if choices.any (·.text == "") then .error (.invalidInput (.emptyOption b.state))
      else .ok ()

end Block

/-- A name for a place to start from. -/
structure EntryPoint where
  key : String
  state : State
  deriving DecidableEq

/-- Sends every participant that waits at a state back to an entry point. -/
structure Mailing where
  name : String
  entryKey : String
  requiredState : State
  deriving DecidableEq

/-- Blocks by their states. -/
abbrev Blocks := Table Block.state

/-- Entry points by their keys. -/
abbrev EntryPoints := Table EntryPoint.key

/-- Whether a script may lead back to a block. -/
inductive CyclePolicy
  | permissive
  | reject
  deriving DecidableEq, Inhabited

def CyclePolicy.name : CyclePolicy → String
  | .permissive => "Permissive"
  | .reject => "Reject"

def CyclePolicy.ofName (name : String) : Except Error CyclePolicy :=
  if name = "permissive" then .ok .permissive
  else if name = "reject" then .ok .reject
  else .error (.invalidInput (.unknownCyclePolicy name))

end ScriptedChat
