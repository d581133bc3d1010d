import ScriptedChat.Action
import ScriptedChat.Bot
import ScriptedChat.Conversation

/-!
What the engine asks of its stores. An update loads a value, changes it and saves it whole; if
the change fails, nothing is saved and the error is passed on.
-/
namespace ScriptedChat

/-- Stores for bots and for participants that live in one state. -/
structure Stores (σ : Type) where
  /-- Inserts a bot whose identifier is free. -/
  createBot : Bot → Action σ Unit
  updateBot : Uuid → (Bot → Except Error Bot) → Action σ Bot
  setStatus : Uuid → BotStatus → Time → Action σ Unit
  deleteBot : Uuid → Action σ Unit
  getBot : Uuid → Action σ Bot
  botsOfOwner : UserId → Action σ (List Bot)
  botsWithStatus : BotStatus → Action σ (List Bot)
  /-- Changes a participant, a fresh one if there is none yet. -/
  updateParticipant : {α : Type} → Address →
    (Participant → Except Error (α × Participant)) → Action σ α
  getParticipant : Address → Action σ Participant
  participantsOfBot : Uuid → Action σ (List Participant)
  deleteParticipants : Uuid → Action σ Unit

namespace Stores

variable {τ σ : Type}

/-- Stores that live in a part of a state. -/
def within (part : Part τ σ) (s : Stores σ) : Stores τ where
  createBot bot := part.act (s.createBot bot)
  updateBot id change := part.act (s.updateBot id change)
  setStatus id status now := part.act (s.setStatus id status now)
  deleteBot id := part.act (s.deleteBot id)
  getBot id := part.act (s.getBot id)
  botsOfOwner owner := part.act (s.botsOfOwner owner)
  botsWithStatus status := part.act (s.botsWithStatus status)
  updateParticipant address change := part.act (s.updateParticipant address change)
  getParticipant address := part.act (s.getParticipant address)
  participantsOfBot id := part.act (s.participantsOfBot id)
  deleteParticipants id := part.act (s.deleteParticipants id)

end Stores

/-- The operations of the two stores. -/
inductive StoreOperation
  | createBot
  | updateBot
  | setStatus
  | deleteBot
  | getBot
  | botsOfOwner
  | botsWithStatus
  | updateParticipant
  | getParticipant
  | participantsOfBot
  | deleteParticipants
  deriving DecidableEq

namespace StoreOperation

/-- The operations on bots by their names. -/
def ofBots : List (String × StoreOperation) :=
  [("create", .createBot), ("update", .updateBot), ("update_status", .setStatus),
    ("delete", .deleteBot), ("get", .getBot), ("list_by_owner", .botsOfOwner),
    ("list_by_status", .botsWithStatus)]

/-- The operations on participants by their names. -/
def ofParticipants : List (String × StoreOperation) :=
  [("update_or_create", .updateParticipant), ("get", .getParticipant),
    ("list_by_bot", .participantsOfBot), ("delete_by_bot", .deleteParticipants)]

/-- The operations that are named; an asterisk names all of them. -/
def named (operations : List (String × StoreOperation)) (names : List String) :
    List StoreOperation :=
  (operations.filter fun (name, _) => names.contains "*" || names.contains name).map (·.2)

/-- The operations on bots and on participants that are named. -/
def chosen (bots participants : List String) : List StoreOperation :=
  named ofBots bots ++ named ofParticipants participants

end StoreOperation

namespace Stores

variable {σ : Type}

/-- Fails before an operation that the state refuses. -/
def guarded (refuses : σ → StoreOperation → Bool) (op : StoreOperation) {α : Type}
    (m : Action σ α) : Action σ α := do
  if refuses (← get) op then throw (.infrastructure .refused)
  m

/-- Stores of which some operations refuse to work. -/
def refusing (refuses : σ → StoreOperation → Bool) (s : Stores σ) : Stores σ where
  createBot bot := guarded refuses .createBot (s.createBot bot)
  updateBot id change := guarded refuses .updateBot (s.updateBot id change)
  setStatus id status now := guarded refuses .setStatus (s.setStatus id status now)
  deleteBot id := guarded refuses .deleteBot (s.deleteBot id)
  getBot id := guarded refuses .getBot (s.getBot id)
  botsOfOwner owner := guarded refuses .botsOfOwner (s.botsOfOwner owner)
  botsWithStatus status := guarded refuses .botsWithStatus (s.botsWithStatus status)
  updateParticipant address change :=
    guarded refuses .updateParticipant (s.updateParticipant address change)
  getParticipant address := guarded refuses .getParticipant (s.getParticipant address)
  participantsOfBot id := guarded refuses .participantsOfBot (s.participantsOfBot id)
  deleteParticipants id := guarded refuses .deleteParticipants (s.deleteParticipants id)

end Stores

end ScriptedChat
