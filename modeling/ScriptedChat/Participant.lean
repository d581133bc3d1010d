import ScriptedChat.Error
import ScriptedChat.Table

/-!
Participants: where an end user stands in the script of a bot and what the user answered so
far, one answer for each state.
-/
namespace ScriptedChat

/-- What a user answered at a block. -/
structure Answer where
  user : UserId
  state : State
  text : String
  deriving DecidableEq

/-- An answer that says something. -/
def Answer.make (user : UserId) (state : State) (text : String) : Except Error Answer :=
  if text = "" then .error (.invalidInput (.emptyAnswer state)) else .ok ⟨user, state, text⟩

structure Participant where
  address : Address
  /-- The block that waits for the user, or the end of the script. -/
  state : State
  answers : Table Answer.state
  deriving DecidableEq

namespace Participant

/-- A user who did not enter the script yet. -/
def fresh (address : Address) : Participant := ⟨address, finished, .empty⟩

/-- A participant from a list of answers, of which the later ones stay. -/
def restore (address : Address) (state : State) (answers : List Answer) : Participant :=
  ⟨address, state, .ofList answers⟩

def isFinished (p : Participant) : Bool := p.state = finished

def moveTo (p : Participant) (s : State) : Participant := { p with state := s }

/-- Stores an answer, in the place of an earlier one at its state. -/
def record (p : Participant) (a : Answer) : Participant :=
  { p with answers := p.answers.insert a }

/-- Drops the answers at some states. -/
def clear (p : Participant) (states : List State) : Participant :=
  { p with answers := p.answers.filter fun a => !states.contains a.state }

def answerAt? (p : Participant) (s : State) : Option Answer := p.answers.get? s

end Participant

end ScriptedChat
