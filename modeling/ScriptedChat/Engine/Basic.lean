import ScriptedChat.Bus.Publisher
import ScriptedChat.Engine.Command
import ScriptedChat.Store.Interface

/-!
The engine carries out commands over a pair of stores and a publisher. Changes are saved before
anything is published, and what one participant is sent goes out as one batch.
-/
namespace ScriptedChat

structure Engine (σ : Type) where
  stores : Stores σ
  publisher : Publisher σ

/-- The surroundings of one command: the reading of the clock and the rule for new scripts. -/
structure Setting where
  now : Time
  cycles : CyclePolicy
  deriving Inhabited

namespace Engine

variable {σ : Type}

def publish (e : Engine σ) (batch : List Envelope) : Action σ Unit :=
  ExceptT.mk do return (← e.publisher batch).mapError Error.ofBus

/-- The envelopes of messages for one user. -/
def addressed (address : Address) (messages : List Message) : List Envelope :=
  messages.map fun m => .message (.make address.bot address.user m.text m.buttons)

/-- Publishes messages for one user as one batch. -/
def publishMessages (e : Engine σ) (address : Address) (messages : List Message) :
    Action σ Unit :=
  if messages.isEmpty then return else e.publish (addressed address messages)

/-- A bot, for its owner only. -/
def ownedBot (e : Engine σ) (id : Uuid) (owner : UserId) : Action σ Bot := do
  let bot ← e.stores.getBot id
  bot.ensureOwner owner
  return bot

def createBot (e : Engine σ) (setting : Setting) (draft : BotDraft) : Action σ Bot := do
  let bot ← Bot.create draft setting.cycles setting.now
  e.stores.createBot bot
  return bot

def setScript (e : Engine σ) (setting : Setting) (id : Uuid) (owner : UserId)
    (entries : List EntryPoint) (blocks : List Block) : Action σ Bot :=
  e.stores.updateBot id fun bot => do
    bot.ensureOwner owner
    bot.setScript entries blocks setting.cycles setting.now

def addMailing (e : Engine σ) (setting : Setting) (id : Uuid) (owner : UserId)
    (mailing : Mailing) : Action σ Bot :=
  e.stores.updateBot id fun bot => do
    bot.ensureOwner owner
    bot.addMailing mailing setting.now

/-- Publishes a start. A bot whose start cannot be published is marked as failed. -/
def startBot (e : Engine σ) (setting : Setting) (id : Uuid) (owner : UserId) :
    Action σ Unit := do
  let bot ← e.ownedBot id owner
  try
    e.publish [.lifecycle (.start bot.id bot.token)]
  catch error =>
    e.stores.setStatus bot.id .failed setting.now
    throw error
  e.stores.setStatus bot.id .started setting.now

def stopBot (e : Engine σ) (setting : Setting) (id : Uuid) (owner : UserId) :
    Action σ Unit := do
  let bot ← e.ownedBot id owner
  e.publish [.lifecycle (.stop bot.id)]
  e.stores.setStatus bot.id .stopped setting.now

/-- Deletes a bot with its participants, after a stop for one that was started. -/
def deleteBot (e : Engine σ) (id : Uuid) (owner : UserId) : Action σ Unit := do
  let bot ← e.ownedBot id owner
  if bot.status = .started then e.publish [.lifecycle (.stop bot.id)]
  e.stores.deleteParticipants bot.id
  e.stores.deleteBot bot.id

def enter (e : Engine σ) (address : Address) (key : String) : Action σ (List Message) := do
  let bot ← e.stores.getBot address.bot
  let messages ← e.stores.updateParticipant address fun p => p.enter bot.script key
  e.publishMessages address messages
  return messages

def process (e : Engine σ) (address : Address) (input : String) : Action σ Transition := do
  let bot ← e.stores.getBot address.bot
  let transition ← e.stores.updateParticipant address fun p => p.reply bot.script input
  e.publishMessages address transition.messages
  return transition

/-- Sends a participant back to the entry point of a mailing if the user still waits at its
state; otherwise the participant is saved as it is. -/
def enterIfParked (e : Engine σ) (bot : Bot) (mailing : Mailing) (user : UserId) :
    Action σ (Option (List Message)) :=
  e.stores.updateParticipant ⟨bot.id, user⟩ fun p =>
    if p.state = mailing.requiredState then
      (p.enter bot.script mailing.entryKey).map fun (messages, p) => (some messages, p)
    else .ok (none, p)

/-- Whether a mailing reached a user. What fails for one user does not stop the others. -/
def reach (e : Engine σ) (bot : Bot) (mailing : Mailing) (user : UserId) : Action σ Bool := do
  try
    match ← e.enterIfParked bot mailing user with
    | some messages =>
      e.publishMessages ⟨bot.id, user⟩ messages
      return true
    | none => return false
  catch _ => return false

/-- Sends a mailing to all who wait at its state, and counts those it reached. -/
def sendMailing (e : Engine σ) (id : Uuid) (owner : UserId) (name : String) : Action σ Nat := do
  let bot ← e.ownedBot id owner
  match bot.mailing? name with
  | none => throw (.mailingNotFound name)
  | some mailing =>
    let audience ← e.stores.participantsOfBot bot.id
    let parked := audience.filter fun p => p.state = mailing.requiredState
    parked.foldlM
      (fun n p => do return if ← e.reach bot mailing p.address.user then n + 1 else n) 0

/-- Publishes a start for every bot that is recorded as started, in one batch. -/
def resume (e : Engine σ) : Action σ Nat := do
  let started ← e.stores.botsWithStatus .started
  if started.isEmpty then return 0
  e.publish (started.map fun bot => .lifecycle (.start bot.id bot.token))
  return started.length

/-- Carries out a command. -/
def handle (e : Engine σ) (setting : Setting) : Command → Action σ Reply
  | .createBot draft => return .bot (← e.createBot setting draft)
  | .setScript bot owner entries blocks =>
    return .bot (← e.setScript setting bot owner entries blocks)
  | .addMailing bot owner mailing => return .bot (← e.addMailing setting bot owner mailing)
  | .sendMailing bot owner name => return .count (← e.sendMailing bot owner name)
  | .startBot bot owner => do e.startBot setting bot owner; return .done
  | .stopBot bot owner => do e.stopBot setting bot owner; return .done
  | .deleteBot bot owner => do e.deleteBot bot owner; return .done
  | .enter address key => return .messages (← e.enter address key)
  | .process address input => return .transition (← e.process address input)
  | .resume => return .count (← e.resume)

/-- The answers of all participants of a bot, for its owner. -/
def answers (e : Engine σ) (id : Uuid) (owner : UserId) : Action σ AnswersTable := do
  let bot ← e.ownedBot id owner
  return .build bot.script (← e.stores.participantsOfBot id)

/-- A participant of a bot, for its owner. -/
def participant (e : Engine σ) (address : Address) (owner : UserId) : Action σ Participant := do
  let _ ← e.ownedBot address.bot owner
  e.stores.getParticipant address

/-- Answers a query. -/
def ask (e : Engine σ) : Query → Action σ QueryReply
  | .bot id owner => return .bot (← e.ownedBot id owner)
  | .bots owner => return .bots (← e.stores.botsOfOwner owner)
  | .answers id owner => return .answers (← e.answers id owner)
  | .participant address owner => return .participant (← e.participant address owner)

end Engine

end ScriptedChat
