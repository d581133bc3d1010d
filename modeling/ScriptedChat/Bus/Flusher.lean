import ScriptedChat.Bus.Outbox

/-!
Tasks that retry an outbox at a steady pace. A task flushes the outbox when it begins, at every
tick and once more when the tasks are told to end. A task that begins after that flushes and is
over.
-/
namespace ScriptedChat

structure Flusher (σ : Type) where
  outbox : Outbox σ
  /-- How many tasks are at work. -/
  tasks : Nat := 0
  ended : Bool := false

namespace Flusher

variable {σ : Type}

def outboxPart : Part (Flusher σ) (Outbox σ) :=
  ⟨outbox, fun f o => { f with outbox := o }⟩

/-- Flushes once for each of a number of tasks. -/
def flushFor (p : Publisher σ) : Nat → StateM (Flusher σ) Unit
  | 0 => return
  | n + 1 => do
    let _ ← outboxPart.lift (Outbox.flush p)
    flushFor p n

def spawn (p : Publisher σ) : StateM (Flusher σ) Unit := do
  flushFor p 1
  modify fun f => if f.ended then f else { f with tasks := f.tasks + 1 }

/-- Begins a task that is to flush once in every period. No timer has a period of zero: a task that
asks for one is lost as it begins, before it has flushed, and is not there to be told of the end. -/
def spawnEvery (p : Publisher σ) (period : Nat) : StateM (Flusher σ) Unit :=
  if period = 0 then return else spawn p

def tick (p : Publisher σ) : StateM (Flusher σ) Unit := do
  flushFor p (← get).tasks

def shutdown (p : Publisher σ) : StateM (Flusher σ) Unit := do
  flushFor p (← get).tasks
  modify fun f => { f with tasks := 0, ended := true }

end Flusher

end ScriptedChat
