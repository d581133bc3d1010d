import ScriptedChat.Error

/-!
Actions of the engine: computations on a state that may fail. What an action did to the state
before it failed stays done.
-/
namespace ScriptedChat

abbrev Action (σ α : Type) := ExceptT Error (StateM σ) α

/-- A part of a state: how to look at it and how to replace it. -/
structure Part (τ σ : Type) where
  get : τ → σ
  set : τ → σ → τ

namespace Part

variable {τ σ α : Type}

/-- A computation on a part of a state. -/
def lift (part : Part τ σ) (m : StateM σ α) : StateM τ α := fun t =>
  let (a, s) := m.run (part.get t)
  (a, part.set t s)

/-- An action on a part of a state. -/
def act (part : Part τ σ) (m : Action σ α) : Action τ α := part.lift (σ := σ) m

end Part

end ScriptedChat
