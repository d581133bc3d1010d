import ScriptedChat.Bus.Publisher
import ScriptedChat.Channel.Adapter

/-!
The dispatcher takes deliveries from a subscriber one at a time, handles each and acknowledges
it whether or not it could be handled. When the bus ends or fails, every session is stopped.
-/
namespace ScriptedChat

/-- A subscriber's state beside the adapter's. -/
structure Dispatcher (σ : Type) where
  source : σ
  adapter : Adapter

namespace Dispatcher

variable {σ : Type}

def sourcePart : Part (Dispatcher σ) σ := ⟨source, fun d s => { d with source := s }⟩

def adapterPart : Part (Dispatcher σ) Adapter := ⟨adapter, fun d a => { d with adapter := a }⟩

/-- An answer of the subscriber. -/
def onBus {α : Type} (m : StateM σ (Except BusError α)) :
    ExceptT AdapterError (StateM (Dispatcher σ)) α :=
  ExceptT.mk do return (← sourcePart.lift m).mapError AdapterError.bus

/-- Handles one envelope; that it fails is of no account. -/
def handle (platform : Platform) (e : Envelope) : StateM (Dispatcher σ) Unit :=
  adapterPart.lift (Adapter.attempt (Adapter.dispatch platform e))

/-- Handles deliveries until there are no more, at most as many as the fuel allows. -/
def consume (platform : Platform) (subscriber : Subscriber σ) :
    Nat → ExceptT AdapterError (StateM (Dispatcher σ)) Unit
  | 0 => return
  | fuel + 1 => do
    match ← onBus subscriber.next with
    | none => return
    | some d =>
      ExceptT.lift (handle platform d.envelope)
      onBus (subscriber.ack d.id)
      consume platform subscriber fuel

/-- Handles deliveries and then stops every session, also after a failure of the bus. -/
def run (platform : Platform) (subscriber : Subscriber σ) (fuel : Nat) :
    StateM (Dispatcher σ) (Except AdapterError Unit) := do
  let outcome ← (consume platform subscriber fuel).run
  adapterPart.lift (Adapter.stopAll platform)
  return outcome

end Dispatcher

end ScriptedChat
