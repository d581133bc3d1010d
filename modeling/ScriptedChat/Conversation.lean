import ScriptedChat.Participant
import ScriptedChat.Script.Basic

/-!
How a participant goes through a script. Entering forgets the answers that the entry point
can lead to and lands on its target; an input is taken as the answer of the block that waits,
and leads on from there. Landing on a message sends it and goes straight on, until a block
waits or the script ends. A message that comes round again without a wait is a runaway.
-/
namespace ScriptedChat

/-- What the user gets to see. -/
structure Message where
  text : String
  buttons : List String
  deriving DecidableEq

/-- The outcome of one step of a conversation. -/
structure Transition where
  messages : List Message := []
  answer : Option Answer := none
  deriving DecidableEq

def Block.message (b : Block) : Message := ⟨b.text, b.buttons⟩

namespace Script

/-- The number of blocks outside a list of states. -/
def unseen (script : Script) (seen : List State) : Nat :=
  script.blocks.rows.countP fun b => !seen.contains b.state

theorem unseen_cons_lt {script : Script} {seen : List State} {b : Block}
    (mem : b ∈ script.blocks.rows) (fresh : ¬ b.state ∈ seen) :
    script.unseen (b.state :: seen) < script.unseen seen := by
  unfold unseen
  generalize script.blocks.rows = l at mem
  have le (l : List Block) : l.countP (fun x => !(b.state :: seen).contains x.state) ≤
      l.countP fun x => !seen.contains x.state := by
    refine List.countP_mono_left fun x _ hx => ?_
    simp only [List.contains_eq_mem, List.mem_cons, Bool.not_eq_true', decide_eq_false_iff_not]
      at hx ⊢
    exact fun h => hx (.inr h)
  induction l with
  | nil => cases mem
  | cons a rest ih =>
    simp only [List.countP_cons]
    rcases List.mem_cons.1 mem with rfl | mem
    · have := le rest
      simp [fresh] at this ⊢
      omega
    · have := ih mem
      have := le [a]
      simp only [List.countP_cons, List.countP_nil] at this
      omega

/-- Lands on a state and goes on over messages. `seen` holds the messages that were sent since
the user last was at rest. -/
def landFrom (script : Script) (seen : List State) (s : State) :
    Except Error (State × List Message) :=
  match _found : script.block? s with
  | none => .ok (s, [])
  | some b =>
    if b.isMessage then
      if _again : b.state ∈ seen then .error (.runawayScript b.state)
      else do
        let (rest, messages) ← landFrom script (b.state :: seen) b.next
        return (rest, b.message :: messages)
    else .ok (s, [b.message])
termination_by script.unseen seen
decreasing_by exact unseen_cons_lt (Table.mem_of_get? _found) _again

/-- Where a user who is sent to a state comes to rest, and the messages on the way. -/
def land (script : Script) (s : State) : Except Error (State × List Message) :=
  script.landFrom [] s

end Script

namespace Participant

/-- Starts over at an entry point. -/
def enter (p : Participant) (script : Script) (key : String) :
    Except Error (List Message × Participant) := do
  match script.entry? key with
  | none => throw (.entryNotFound key)
  | some entry =>
    let reached ← script.blocks.reachableFrom entry.state
    let (rest, messages) ← script.land entry.state
    return (messages, (p.clear reached).moveTo rest)

/-- Takes an input. The answer is part of the outcome; it is not recorded yet. -/
def process (p : Participant) (script : Script) (input : String) :
    Except Error (Transition × Participant) := do
  if p.isFinished then return ({}, p)
  match script.block? p.state with
  | none => throw (.blockNotFound p.state)
  | some b =>
    let answer ←
      if b.isMessage then pure none else (Answer.make p.address.user b.state input).map some
    let (rest, messages) ← script.land (b.route input)
    return (⟨messages, answer⟩, p.moveTo rest)

/-- Records the answer of an outcome, if it has one. -/
def recordAnswer (p : Participant) (t : Transition) : Participant :=
  match t.answer with
  | some a => p.record a
  | none => p

/-- Takes an input and records its answer. -/
def reply (p : Participant) (script : Script) (input : String) :
    Except Error (Transition × Participant) := do
  let (transition, p) ← p.process script input
  return (transition, p.recordAnswer transition)

end Participant

end ScriptedChat
