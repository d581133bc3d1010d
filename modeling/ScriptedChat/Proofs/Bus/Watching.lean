import ScriptedChat.Proofs.Bus.AllOrNothing
import ScriptedChat.Proofs.Outcome

/-!
Publishers that are watched. Beside the state of a publisher every use of it is written down: the
batch that it was handed and the answer. The publisher itself does not notice, so whatever it takes
it takes as before.
-/
namespace ScriptedChat

/-- One use of a publisher. -/
structure Attempt where
  batch : List Envelope
  outcome : Except BusError Unit
  deriving DecidableEq

namespace Publisher

variable {π : Type}

/-- A publisher with a record of its uses, the latest one last. -/
def watched (publisher : Publisher π) : Publisher (π × List Attempt) := fun batch => do
  let (w, attempts) ← get
  let (outcome, w) := (publisher batch).run w
  set (w, attempts ++ [⟨batch, outcome⟩])
  return outcome

theorem AllOrNothing.watched {publisher : Publisher π} {taken : π → List Envelope}
    (h : publisher.AllOrNothing taken) :
    publisher.watched.AllOrNothing fun w => taken w.1 where
  accepts batch w hok := h.accepts batch w.1 hok
  refuses batch w e herror := h.refuses batch w.1 e herror

end Publisher

end ScriptedChat
