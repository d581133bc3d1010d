import ScriptedChat.Bus.Publisher

/-!
A publisher that never refuses. Batches are queued first and the whole queue is handed on as
one batch; while the publisher behind it refuses, the queue grows and keeps its order.
-/
namespace ScriptedChat

structure Outbox (σ : Type) where
  queue : List Envelope
  inner : σ

namespace Outbox

variable {σ : Type}

/-- The state behind the queue. -/
def behind : Part (Outbox σ) σ := ⟨inner, fun o s => { o with inner := s }⟩

/-- Hands the queue on, unless it is empty. -/
def drain (p : Publisher σ) : StateM (Outbox σ) Unit := do
  let o ← get
  if o.queue.isEmpty then return
  match ← behind.lift (p o.queue) with
  | .ok () => modify fun o => { o with queue := [] }
  | .error _ => return

def publish (p : Publisher σ) : Publisher (Outbox σ) := fun batch => do
  modify fun o => { o with queue := o.queue ++ batch }
  drain p
  return .ok ()

/-- Tries the queue again and tells how much of it is left. -/
def flush (p : Publisher σ) : StateM (Outbox σ) Nat := do
  drain p
  return (← get).queue.length

end Outbox

end ScriptedChat
