import ScriptedChat.Bus.Publisher

/-!
The bus inside one process: a queue with a publishing end and a subscribing end. Deliveries are
numbered from 1. A batch is refused once the subscriber is gone, and the subscriber reads on
until the queue is empty after the publisher is gone.
-/
namespace ScriptedChat

structure Queue where
  waiting : List Delivery := []
  nextId : Int := 1
  hasPublisher : Bool := true
  hasSubscriber : Bool := true

namespace Queue

/-- Deliveries of a batch, numbered from a first number. -/
def number (first : Int) : List Envelope → List Delivery
  | [] => []
  | e :: rest => ⟨first, e⟩ :: number (first + 1) rest

def publish : Publisher Queue := fun batch => do
  let q ← get
  if batch.isEmpty then return .ok ()
  if !q.hasSubscriber then return .error .closed
  set { q with waiting := q.waiting ++ number q.nextId batch, nextId := q.nextId + batch.length }
  return .ok ()

/-- Takes the delivery at the front. -/
def next : StateM Queue (Option Delivery) := do
  let q ← get
  match q.waiting with
  | [] => return none
  | d :: rest =>
    set { q with waiting := rest }
    return some d

def subscriber : Subscriber Queue where
  next := return .ok (← next)
  ack _ := return .ok ()

end Queue

end ScriptedChat
