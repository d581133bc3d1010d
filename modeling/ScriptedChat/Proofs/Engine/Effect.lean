import ScriptedChat.Proofs.Engine.Refusal
import ScriptedChat.Proofs.Engine.World

/-!
What a command can do to stores in memory, said once for each command with everything that it
depends on. A command that is refused changes nothing and hands nothing to the publisher; the
others change the stores first and publish then, or the other way round, and say so.
-/
namespace ScriptedChat.Engine

open ScriptedChat.Action

variable {π : Type}

/-- The outcome of a publish of messages for one user, and the publisher after it. -/
def announce (publisher : Publisher π) (address : Address) (messages : List Message) (w : π) :
    Except Error Unit × π :=
  if messages.isEmpty then (.ok (), w)
  else
    (published publisher (addressed address messages) w,
      handed publisher (addressed address messages) w)

/-- One user of a mailing: whether it reached the user, the stores and the publisher. -/
def mailUser (publisher : Publisher π) (bot : Bot) (mailing : Mailing) (world : Memory × π)
    (user : UserId) : Bool × (Memory × π) :=
  let p := world.1.participantAt ⟨bot.id, user⟩
  if p.state = mailing.requiredState then
    match p.enter bot.script mailing.entryKey with
    | .ok (messages, q) =>
      let (sent, w) := announce publisher ⟨bot.id, user⟩ messages world.2
      (sent.isOk, (world.1.saveParticipant q, w))
    | .error _ => (false, world)
  else (false, (world.1.saveParticipant p, world.2))

/-- A mailing to one user after the other: how many it reached, the stores and the publisher. -/
def mailAll (publisher : Publisher π) (bot : Bot) (mailing : Mailing) (users : List UserId)
    (n : Nat) (world : Memory × π) : Nat × (Memory × π) :=
  match users with
  | [] => (n, world)
  | user :: rest =>
    let (reached, world) := mailUser publisher bot mailing world user
    mailAll publisher bot mailing rest (if reached then n + 1 else n) world

/-- The users of a bot that wait at a state, as they are listed. -/
def audience (m : Memory) (id : Uuid) (s : State) : List UserId :=
  ((m.participants.rows.filter fun p => p.address.bot = id).filter fun p => p.state = s).map
    fun p => p.address.user

/-- What a command does to the stores and to the publisher, and what it answers. -/
inductive Effect (publisher : Publisher π) (setting : Setting) (m : Memory) (w : π) :
    Command → Except Error Reply → Memory × π → Prop
  | refused (c : Command) (e : Error) (he : Refusal e) :
      Effect publisher setting m w c (.error e) (m, w)
  | created (draft : BotDraft) (bot : Bot)
      (hbot : Bot.create draft setting.cycles setting.now = .ok bot)
      (hfree : m.bots.get? draft.id = none) :
      Effect publisher setting m w (.createBot draft) (.ok (.bot bot)) (m.saveBot bot, w)
  | scriptSet (id : Uuid) (owner : UserId) (entries : List EntryPoint) (blocks : List Block)
      (bot changed : Bot) (hbot : m.bots.get? id = some bot) (howner : bot.owner = owner)
      (hchange : bot.setScript entries blocks setting.cycles setting.now = .ok changed) :
      Effect publisher setting m w (.setScript id owner entries blocks) (.ok (.bot changed))
        (m.saveBot changed, w)
  | mailingAdded (id : Uuid) (owner : UserId) (mailing : Mailing) (bot changed : Bot)
      (hbot : m.bots.get? id = some bot) (howner : bot.owner = owner)
      (hchange : bot.addMailing mailing setting.now = .ok changed) :
      Effect publisher setting m w (.addMailing id owner mailing) (.ok (.bot changed))
        (m.saveBot changed, w)
  | started (id : Uuid) (owner : UserId) (bot : Bot) (hbot : m.bots.get? id = some bot)
      (howner : bot.owner = owner)
      (hpublish : published publisher [.lifecycle (.start id bot.token)] w = .ok ()) :
      Effect publisher setting m w (.startBot id owner) (.ok .done)
        (m.saveBot (bot.setStatus .started setting.now),
          handed publisher [.lifecycle (.start id bot.token)] w)
  | startFailed (id : Uuid) (owner : UserId) (bot : Bot) (reason : String)
      (hbot : m.bots.get? id = some bot) (howner : bot.owner = owner)
      (hpublish : published publisher [.lifecycle (.start id bot.token)] w =
        .error (.publish reason)) :
      Effect publisher setting m w (.startBot id owner) (.error (.publish reason))
        (m.saveBot (bot.setStatus .failed setting.now),
          handed publisher [.lifecycle (.start id bot.token)] w)
  | stopped (id : Uuid) (owner : UserId) (bot : Bot) (hbot : m.bots.get? id = some bot)
      (howner : bot.owner = owner)
      (hpublish : published publisher [.lifecycle (.stop id)] w = .ok ()) :
      Effect publisher setting m w (.stopBot id owner) (.ok .done)
        (m.saveBot (bot.setStatus .stopped setting.now),
          handed publisher [.lifecycle (.stop id)] w)
  | stopFailed (id : Uuid) (owner : UserId) (bot : Bot) (reason : String)
      (hbot : m.bots.get? id = some bot) (howner : bot.owner = owner)
      (hpublish : published publisher [.lifecycle (.stop id)] w = .error (.publish reason)) :
      Effect publisher setting m w (.stopBot id owner) (.error (.publish reason))
        (m, handed publisher [.lifecycle (.stop id)] w)
  | deletedIdle (id : Uuid) (owner : UserId) (bot : Bot) (hbot : m.bots.get? id = some bot)
      (howner : bot.owner = owner) (hidle : bot.status ≠ .started) :
      Effect publisher setting m w (.deleteBot id owner) (.ok .done) (m.dropBot id, w)
  | deletedRunning (id : Uuid) (owner : UserId) (bot : Bot) (hbot : m.bots.get? id = some bot)
      (howner : bot.owner = owner) (hrunning : bot.status = .started)
      (hpublish : published publisher [.lifecycle (.stop id)] w = .ok ()) :
      Effect publisher setting m w (.deleteBot id owner) (.ok .done)
        (m.dropBot id, handed publisher [.lifecycle (.stop id)] w)
  | deleteFailed (id : Uuid) (owner : UserId) (bot : Bot) (reason : String)
      (hbot : m.bots.get? id = some bot) (howner : bot.owner = owner)
      (hrunning : bot.status = .started)
      (hpublish : published publisher [.lifecycle (.stop id)] w = .error (.publish reason)) :
      Effect publisher setting m w (.deleteBot id owner) (.error (.publish reason))
        (m, handed publisher [.lifecycle (.stop id)] w)
  | entered (address : Address) (key : String) (bot : Bot) (messages : List Message)
      (q : Participant) (hbot : m.bots.get? address.bot = some bot)
      (henter : (m.participantAt address).enter bot.script key = .ok (messages, q)) :
      Effect publisher setting m w (.enter address key)
        ((announce publisher address messages w).1.map fun _ => .messages messages)
        (m.saveParticipant q, (announce publisher address messages w).2)
  | processed (address : Address) (input : String) (bot : Bot) (t : Transition)
      (q : Participant) (hbot : m.bots.get? address.bot = some bot)
      (hreply : (m.participantAt address).reply bot.script input = .ok (t, q)) :
      Effect publisher setting m w (.process address input)
        ((announce publisher address t.messages w).1.map fun _ => .transition t)
        (m.saveParticipant q, (announce publisher address t.messages w).2)
  | mailed (id : Uuid) (owner : UserId) (name : String) (bot : Bot) (mailing : Mailing)
      (hbot : m.bots.get? id = some bot) (howner : bot.owner = owner)
      (hmailing : bot.mailing? name = some mailing) :
      Effect publisher setting m w (.sendMailing id owner name)
        (.ok (.count (mailAll publisher bot mailing
          (audience m id mailing.requiredState) 0 (m, w)).1))
        (mailAll publisher bot mailing (audience m id mailing.requiredState) 0 (m, w)).2
  | resumed (started : List Bot)
      (hstarted : started.Perm (m.bots.rows.filter fun bot => bot.status = .started))
      (hne : started ≠ [])
      (hpublish : published publisher
        (started.map fun bot => .lifecycle (.start bot.id bot.token)) w = .ok ()) :
      Effect publisher setting m w .resume (.ok (.count started.length))
        (m, handed publisher (started.map fun bot => .lifecycle (.start bot.id bot.token)) w)
  | resumeFailed (started : List Bot) (reason : String)
      (hstarted : started.Perm (m.bots.rows.filter fun bot => bot.status = .started))
      (hne : started ≠ [])
      (hpublish : published publisher
        (started.map fun bot => .lifecycle (.start bot.id bot.token)) w =
          .error (.publish reason)) :
      Effect publisher setting m w .resume (.error (.publish reason))
        (m, handed publisher (started.map fun bot => .lifecycle (.start bot.id bot.token)) w)
  | resumedNone (hnone : (m.bots.rows.filter fun bot => bot.status = .started) = []) :
      Effect publisher setting m w .resume (.ok (.count 0)) (m, w)

end ScriptedChat.Engine
