import ScriptedChat.Proofs.Engine.Seclusion

/-!
How far a command reaches. Every command but the resume is about one bot, and the stores after it
agree with those before it outside of that bot. The commands that make a bot or change one leave
all participants as they are; an entry and an input leave all bots as they are, and all
participants but the one that they address.
-/
namespace ScriptedChat

/-- The bot that a command is about. A resume is about all started ones. -/
def Command.bot? : Command → Option Uuid
  | .createBot draft => some draft.id
  | .setScript id _ _ _ | .addMailing id _ _ | .sendMailing id _ _ | .startBot id _ | .stopBot id _
  | .deleteBot id _ => some id
  | .enter address _ | .process address _ => some address.bot
  | .resume => none

/-- The user that a command lets take a step. -/
def Command.address? : Command → Option Address
  | .enter address _ | .process address _ => some address
  | _ => none

/-- Commands that make a bot or change one that stays. -/
def Command.Administers : Command → Prop
  | .createBot _ | .setScript _ _ _ _ | .addMailing _ _ _ | .startBot _ _ | .stopBot _ _ => True
  | _ => False

namespace Memory.AgreeOutside

variable {id : Uuid} {m m' : Memory}

theorem refl (id : Uuid) (m : Memory) : AgreeOutside id m m := ⟨fun _ _ => rfl, fun _ _ => rfl⟩

theorem saved {bot : Bot} (hbot : bot.id = id) : AgreeOutside id m (m.saveBot bot) where
  bots other hother := by
    rw [get?_saveBot, hbot, if_neg (Ne.symm hother)]
  participants _ _ := rfl

theorem savedParticipant {p : Participant} (hp : p.address.bot = id) :
    AgreeOutside id m (m.saveParticipant p) where
  bots _ _ := rfl
  participants address haddress := by
    have hne : p.address ≠ address := fun heq => haddress (by rw [← heq, hp])
    rw [get?_saveParticipant, if_neg hne]

theorem dropped (id : Uuid) (m : Memory) : AgreeOutside id m (m.dropBot id) where
  bots other hother := by
    rw [get?_dropBot, if_neg (Ne.symm hother)]
  participants _ haddress := (m.get?_dropped haddress).symm

theorem agreeOn (h : AgreeOutside id m m') {other : Uuid} (hother : other ≠ id) :
    AgreeOn other m' m where
  bot := (h.bots other hother).symm
  participants user := (h.participants ⟨other, user⟩ hother).symm

end Memory.AgreeOutside

namespace Engine

variable {π : Type} {publisher : Publisher π} {setting : Setting} {m : Memory} {w : π}
  {c : Command} {r : Except Error Reply} {world : Memory × π} {id : Uuid} {address : Address}

/-- A command changes nothing outside of the bot that it is about. -/
theorem Effect.outside (h : Effect publisher setting m w c r world) (hc : c.bot? = some id) :
    m.AgreeOutside id world.1 := by
  cases h with
  | refused | stopFailed | deleteFailed => exact .refl id m
  | created draft bot hbot =>
    obtain ⟨_, _, _, _, rfl⟩ := Bot.create_ok_iff.1 hbot
    exact .saved (Option.some.inj hc)
  | scriptSet _ _ _ _ bot changed hbot _ hchange =>
    cases hc
    exact .saved ((Bot.setScript_id hchange).trans (Table.key_of_get? hbot))
  | mailingAdded _ _ _ bot changed hbot _ hchange =>
    cases hc
    exact .saved ((Bot.addMailing_id hchange).trans (Table.key_of_get? hbot))
  | started _ _ bot hbot | startFailed _ _ bot _ hbot | stopped _ _ bot hbot =>
    cases hc
    have hid : bot.id = id := Table.key_of_get? hbot
    exact .saved hid
  | deletedIdle | deletedRunning =>
    cases hc
    exact .dropped id m
  | entered address _ _ _ _ _ henter =>
    cases hc
    apply Memory.AgreeOutside.savedParticipant
    rw [Participant.enter_address henter, Memory.participantAt_address]
  | processed address _ _ _ _ _ hreply =>
    cases hc
    apply Memory.AgreeOutside.savedParticipant
    rw [Participant.reply_address hreply, Memory.participantAt_address]
  | mailed _ _ _ bot mailing hbot =>
    cases hc
    obtain ⟨hbots, hget⟩ := mailing_eq publisher mailing m w (Table.key_of_get? hbot)
    refine ⟨fun other _ => by rw [hbots], ?_⟩
    intro address haddress
    rw [hget, if_neg haddress]
  | resumed | resumeFailed | resumedNone => cases hc

theorem Effect.participants_eq (h : Effect publisher setting m w c r world)
    (hc : c.Administers) : world.1.participants = m.participants := by
  cases h with
  | refused | created | scriptSet | mailingAdded | started | startFailed | stopped | stopFailed =>
    rfl
  | deletedIdle | deletedRunning | deleteFailed | entered | processed | mailed | resumed
  | resumeFailed | resumedNone => exact hc.elim

/-- A step of a user changes no more than the participant of that user. -/
theorem Effect.visit (h : Effect publisher setting m w c r world)
    (hc : c.address? = some address) :
    world.1 = m ∨ ∃ q, q.address = address ∧ world.1 = m.saveParticipant q := by
  cases h with
  | refused => exact Or.inl rfl
  | entered target _ _ _ q _ henter =>
    cases hc
    exact Or.inr ⟨q, (Participant.enter_address henter).trans (m.participantAt_address _), rfl⟩
  | processed target _ _ _ q _ hreply =>
    cases hc
    exact Or.inr ⟨q, (Participant.reply_address hreply).trans (m.participantAt_address _), rfl⟩
  | created | scriptSet | mailingAdded | started | startFailed | stopped | stopFailed
  | deletedIdle | deletedRunning | deleteFailed | mailed | resumed | resumeFailed | resumedNone =>
    cases hc

theorem Effect.others_eq (h : Effect publisher setting m w c r world)
    (hc : c.address? = some address) :
    world.1.bots = m.bots ∧ ∀ other ≠ address,
      world.1.participants.get? other = m.participants.get? other := by
  rcases h.visit hc with heq | ⟨q, hq, heq⟩
  · rw [heq]
    exact ⟨rfl, fun _ _ => rfl⟩
  · rw [heq]
    refine ⟨rfl, ?_⟩
    intro other hother
    rw [Memory.get?_saveParticipant, hq, if_neg (Ne.symm hother)]

end Engine

end ScriptedChat
