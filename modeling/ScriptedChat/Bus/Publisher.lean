import ScriptedChat.Action
import ScriptedChat.Envelope

/-!
The two ends of a bus. A publisher takes a batch of envelopes whole or refuses it whole. A
subscriber hands out deliveries one by one and is told when each of them was handled.
-/
namespace ScriptedChat

/-- Takes a batch, or says why not. -/
abbrev Publisher (σ : Type) := List Envelope → StateM σ (Except BusError Unit)

def Publisher.within {τ σ : Type} (part : Part τ σ) (p : Publisher σ) : Publisher τ :=
  fun batch => part.lift (p batch)

/-- An envelope on its way, under a number by which it is acknowledged. -/
structure Delivery where
  id : Int
  envelope : Envelope
  deriving DecidableEq

def Delivery.toJson (d : Delivery) : Json :=
  .object [("id", .integer d.id), ("envelope", d.envelope.toJson)]

structure Subscriber (σ : Type) where
  /-- The next delivery, or nothing once there are no more. -/
  next : StateM σ (Except BusError (Option Delivery))
  ack : Int → StateM σ (Except BusError Unit)

/-- A bus that keeps every batch it takes, for as long as it is told to take any. -/
structure Recorder where
  /-- The batches in the order in which they were taken. -/
  taken : List (List Envelope) := []
  /-- Whether every batch is refused. -/
  down : Bool := false
  /-- Which of the coming batches are refused, where 0 is the next one. -/
  failing : List Int := []

namespace Recorder

def publish : Publisher Recorder := fun batch => do
  let r ← get
  let refused := r.down || r.failing.contains 0
  let failing := r.failing.map (· - 1)
  if refused then
    set { r with failing := failing }
    return .error .closed
  else
    set { r with failing := failing, taken := r.taken ++ [batch] }
    return .ok ()

end Recorder

end ScriptedChat
