import ScriptedChat.Store.Interface

/-!
Stores in memory: a table of bots and a table of participants. A change works on a copy, which
takes the place of the stored value only when the change succeeded. The bots lie in a map that
promises no order, so what lists them is told how the map is laid out at that moment.
-/
namespace ScriptedChat

structure Memory where
  bots : Table Bot.id := .empty
  participants : Table Participant.address := .empty
  deriving DecidableEq

namespace Memory

/-- Where in the map a bot lies, by its identifier. The map hands its bots out place by place. Which
place is whose is up to the map, which may settle it anew whenever bots come or go. -/
structure Layout where
  place : Uuid → Nat

namespace Layout

/-- All bots lie in one place, where they come by identifier. -/
def flat : Layout := ⟨fun _ => 0⟩

/-- Bots in the order in which the map hands them out. -/
def arrange (layout : Layout) (bots : List Bot) : List Bot :=
  bots.mergeSort fun a b => layout.place a.id ≤ layout.place b.id

end Layout

def createBot (bot : Bot) : Action Memory Unit := do
  let m ← get
  if m.bots.contains bot.id then throw (.botAlreadyExists bot.id)
  set { m with bots := m.bots.insert bot }

def getBot (id : Uuid) : Action Memory Bot := do
  match (← get).bots.get? id with
  | some bot => return bot
  | none => throw (.botNotFound id)

def updateBot (id : Uuid) (change : Bot → Except Error Bot) : Action Memory Bot := do
  let bot ← change (← getBot id)
  modify fun m => { m with bots := m.bots.insert bot }
  return bot

def setStatus (id : Uuid) (status : BotStatus) (now : Time) : Action Memory Unit := do
  let bot ← getBot id
  modify fun m => { m with bots := m.bots.insert (bot.setStatus status now) }

def deleteBot (id : Uuid) : Action Memory Unit := do
  let _ ← getBot id
  modify fun m => { m with bots := m.bots.erase id }

/-- The bots of an operator, oldest first; bots of one age come as the map hands them out. -/
def botsOfOwner (layout : Layout) (owner : UserId) : Action Memory (List Bot) := do
  let owned := layout.arrange ((← get).bots.rows.filter fun bot => bot.owner = owner)
  return owned.mergeSort fun a b => a.createdAt.le b.createdAt

/-- The bots of a status as the map hands them out. -/
def botsWithStatus (layout : Layout) (status : BotStatus) : Action Memory (List Bot) := do
  return layout.arrange ((← get).bots.rows.filter fun bot => bot.status = status)

def updateParticipant {α : Type} (address : Address)
    (change : Participant → Except Error (α × Participant)) : Action Memory α := do
  let stored := (← get).participants.get? address
  let (outcome, p) ← change (stored.getD (.fresh address))
  modify fun m => { m with participants := m.participants.insert p }
  return outcome

def getParticipant (address : Address) : Action Memory Participant := do
  match (← get).participants.get? address with
  | some p => return p
  | none => throw (.participantNotFound address)

/-- The participants of a bot by ascending user. -/
def participantsOfBot (id : Uuid) : Action Memory (List Participant) := do
  return (← get).participants.rows.filter fun p => p.address.bot = id

def deleteParticipants (id : Uuid) : Action Memory Unit :=
  modify fun m => { m with participants := m.participants.filter fun p => p.address.bot ≠ id }

/-- The stores over a map that is laid out in some way. -/
def stores (layout : Layout) : Stores Memory where
  createBot := createBot
  updateBot := updateBot
  setStatus := setStatus
  deleteBot := deleteBot
  getBot := getBot
  botsOfOwner := botsOfOwner layout
  botsWithStatus := botsWithStatus layout
  updateParticipant := updateParticipant
  getParticipant := getParticipant
  participantsOfBot := participantsOfBot
  deleteParticipants := deleteParticipants

end Memory

end ScriptedChat
