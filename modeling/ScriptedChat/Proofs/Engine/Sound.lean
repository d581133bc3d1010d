import ScriptedChat.Proofs.Bots
import ScriptedChat.Proofs.Engine.Handling
import ScriptedChat.Proofs.Engine.Mailing

/-!
What is always true of stores in memory: every stored script was accepted once, and no
participant outlives its bot. Every effect of a command keeps this, whatever the publisher does.
-/
namespace ScriptedChat

/-- Stores with accepted scripts only and with participants of stored bots only. -/
structure Memory.Sound (m : Memory) : Prop where
  accepted : ∀ bot ∈ m.bots.rows, bot.script.Accepted
  kept : ∀ p ∈ m.participants.rows, (m.bots.get? p.address.bot).isSome

namespace Memory

variable {m : Memory}

theorem sound_empty : Sound {} where
  accepted _ h := absurd h List.not_mem_nil
  kept _ h := absurd h List.not_mem_nil

theorem get?_saveBot (m : Memory) (bot : Bot) (id : Uuid) :
    (m.saveBot bot).bots.get? id = if bot.id = id then some bot else m.bots.get? id := by
  split
  · rename_i h
    subst h
    exact Table.get?_insert_self _ bot
  · rename_i h
    exact Table.get?_insert_of_ne _ h

theorem get?_dropBot (m : Memory) (id other : Uuid) :
    (m.dropBot id).bots.get? other = if id = other then none else m.bots.get? other := by
  split
  · rename_i h
    subst h
    exact Table.get?_erase_self _ id
  · rename_i h
    exact Table.get?_erase_of_ne _ h

namespace Sound

theorem accepted_of_get? (h : Sound m) {id : Uuid} {bot : Bot}
    (hbot : m.bots.get? id = some bot) : bot.script.Accepted :=
  h.accepted bot (Table.mem_of_get? hbot)

theorem saveBot (h : Sound m) {bot : Bot} (haccepted : bot.script.Accepted) :
    Sound (m.saveBot bot) where
  accepted other hother := by
    rcases Table.mem_insert.1 hother with rfl | ⟨hother, _⟩
    · exact haccepted
    · exact h.accepted other hother
  kept p hp := by
    rw [get?_saveBot]
    split
    · rfl
    · exact h.kept p hp

/-- A stored bot may be changed in everything but its script. -/
theorem saveBot_of_script (h : Sound m) {id : Uuid} {bot changed : Bot}
    (hbot : m.bots.get? id = some bot) (hscript : changed.script = bot.script) :
    Sound (m.saveBot changed) := by
  refine h.saveBot ?_
  rw [hscript]
  exact h.accepted_of_get? hbot

theorem saveParticipant (h : Sound m) {p : Participant}
    (hbot : (m.bots.get? p.address.bot).isSome) : Sound (m.saveParticipant p) where
  accepted := h.accepted
  kept q hq := by
    rcases Table.mem_insert.1 hq with rfl | ⟨hq, _⟩
    · exact hbot
    · exact h.kept q hq

theorem dropBot (h : Sound m) (id : Uuid) : Sound (m.dropBot id) where
  accepted bot hbot := h.accepted bot (Table.mem_erase.1 hbot).1
  kept p hp := by
    obtain ⟨hp, hne⟩ := Table.mem_filter.1 hp
    rw [get?_dropBot, if_neg (Ne.symm (by simpa using hne))]
    exact h.kept p hp

/-- Stores with the same bots and with participants of no further bots. -/
theorem of_addresses (h : Sound m) {m' : Memory} (hbots : m'.bots = m.bots)
    (hsub : ∀ address, (m'.participants.get? address).isSome →
      (m.participants.get? address).isSome) : Sound m' where
  accepted := by
    rw [hbots]
    exact h.accepted
  kept p hp := by
    rw [hbots]
    have hsome := hsub p.address (by rw [Table.get?_key_of_mem hp]; rfl)
    obtain ⟨q, hq⟩ := Option.isSome_iff_exists.1 hsome
    have haddress : q.address = p.address := Table.key_of_get? hq
    rw [← haddress]
    exact h.kept q (Table.mem_of_get? hq)

end Sound

end Memory

namespace Engine

variable {π : Type} {publisher : Publisher π} {setting : Setting} {m : Memory} {w : π}
  {c : Command} {r : Except Error Reply} {world : Memory × π}

theorem Effect.sound (h : Effect publisher setting m w c r world) (hm : m.Sound) :
    world.1.Sound := by
  cases h with
  | refused => exact hm
  | created draft bot hbot hfree =>
    obtain ⟨_, _, script, hbuild, rfl⟩ := Bot.create_ok_iff.1 hbot
    exact hm.saveBot ⟨_, _, _, hbuild⟩
  | scriptSet id owner entries blocks bot changed hbot howner hchange =>
    obtain ⟨script, hbuild, _, rfl⟩ := Bot.setScript_ok_iff.1 hchange
    exact hm.saveBot ⟨_, _, _, hbuild⟩
  | mailingAdded id owner mailing bot changed hbot howner hchange =>
    obtain ⟨_, _, _, rfl⟩ := Bot.addMailing_ok_iff.1 hchange
    exact hm.saveBot_of_script hbot rfl
  | started id owner bot hbot => exact hm.saveBot_of_script hbot rfl
  | startFailed id owner bot reason hbot => exact hm.saveBot_of_script hbot rfl
  | stopped id owner bot hbot => exact hm.saveBot_of_script hbot rfl
  | stopFailed => exact hm
  | deletedIdle id => exact hm.dropBot id
  | deletedRunning id => exact hm.dropBot id
  | deleteFailed => exact hm
  | entered address key bot messages q hbot henter =>
    refine hm.saveParticipant ?_
    rw [Participant.enter_address henter, Memory.participantAt_address, hbot]
    rfl
  | processed address input bot t q hbot hreply =>
    refine hm.saveParticipant ?_
    rw [Participant.reply_address hreply, Memory.participantAt_address, hbot]
    rfl
  | mailed id owner name bot mailing hbot =>
    obtain ⟨hbots, hget⟩ := mailing_eq publisher mailing m w (Table.key_of_get? hbot)
    refine hm.of_addresses hbots ?_
    intro address hsome
    rw [hget] at hsome
    split at hsome
    · simpa using hsome
    · exact hsome
  | resumed => exact hm
  | resumeFailed => exact hm
  | resumedNone => exact hm

end Engine

end ScriptedChat
