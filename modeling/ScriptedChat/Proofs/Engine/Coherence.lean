import ScriptedChat.Proofs.Bots.Consistency
import ScriptedChat.Proofs.Waiting

/-!
What all stored bots have. A bot comes into the stores when it is made, and is saved again as one
of the changes left it, so what these keep holds of every stored bot along a run from empty
stores. In particular the script of a stored bot is well formed, and its mailings have names of
their own and point into the script.
-/
namespace ScriptedChat

/-- What new bots have, under a setting, and no change of a bot takes away. -/
structure Bot.Lasting (P : Bot → Prop) (setting : Setting) : Prop where
  create : ∀ draft bot, Bot.create draft setting.cycles setting.now = .ok bot → P bot
  setScript : ∀ bot entries blocks changed, P bot →
    bot.setScript entries blocks setting.cycles setting.now = .ok changed → P changed
  addMailing : ∀ bot mailing changed, P bot → bot.addMailing mailing setting.now = .ok changed →
    P changed
  setStatus : ∀ bot status, P bot → P (bot.setStatus status setting.now)

theorem Bot.consistent_lasting (setting : Setting) : Bot.Lasting Bot.Consistent setting where
  create _ _ h := Bot.consistent_of_create h
  setScript _ _ _ _ hbot h := hbot.setScript h
  addMailing _ _ _ hbot h := hbot.addMailing h
  setStatus _ status hbot := hbot.setStatus status setting.now

namespace Memory

variable {P : Bot → Prop} {m : Memory} {bot : Bot} {id : Uuid}

/-- Whether all stored bots have a property. -/
def Every (P : Bot → Prop) (m : Memory) : Prop :=
  ∀ id bot, m.bots.get? id = some bot → P bot

theorem Every.saveBot (h : m.Every P) (hbot : P bot) : (m.saveBot bot).Every P := by
  intro id other hother
  rw [get?_saveBot] at hother
  split at hother
  · cases hother
    exact hbot
  · exact h id other hother

theorem Every.dropBot (h : m.Every P) (id : Uuid) : (m.dropBot id).Every P :=
  fun other bot hbot => h other bot (get?_of_dropBot hbot)

/-- Whether all stored bots are consistent. -/
def Coherent (m : Memory) : Prop :=
  ∀ id bot, m.bots.get? id = some bot → bot.Consistent

end Memory

/-- The mailing of a consistent bot is the one that its name finds. -/
theorem Bot.Consistent.mailing?_name {bot : Bot} (h : bot.Consistent) {mailing : Mailing}
    (hmem : mailing ∈ bot.mailings) : bot.mailing? mailing.name = some mailing := by
  cases hfound : bot.mailing? mailing.name with
  | none => exact absurd rfl (Bot.mailing?_eq_none_iff.1 hfound mailing hmem)
  | some other =>
    have hother := List.mem_of_find?_eq_some hfound
    have hname : other.name = mailing.name := by simpa using List.find?_some hfound
    rw [List.inj_on_of_nodup_map h.names_nodup hother hmem hname]

namespace Engine

open ScriptedChat.Action

variable {π : Type} {publisher : Publisher π} {setting : Setting} {m : Memory} {w : π}
  {c : Command} {r : Except Error Reply} {world : Memory × π}

/-- No command takes from stored bots what lasts. -/
theorem Effect.every (h : Effect publisher setting m w c r world) {P : Bot → Prop}
    (hP : Bot.Lasting P setting) (hm : m.Every P) : world.1.Every P := by
  cases h with
  | refused | stopFailed | deleteFailed | entered | processed | resumed | resumeFailed
  | resumedNone => exact hm
  | created draft bot hbot => exact hm.saveBot (hP.create draft bot hbot)
  | scriptSet id owner entries blocks bot changed hbot howner hchange =>
    exact hm.saveBot (hP.setScript bot entries blocks changed (hm id bot hbot) hchange)
  | mailingAdded id owner mailing bot changed hbot howner hchange =>
    exact hm.saveBot (hP.addMailing bot mailing changed (hm id bot hbot) hchange)
  | started id owner bot hbot | startFailed id owner bot _ hbot | stopped id owner bot hbot =>
    exact hm.saveBot (hP.setStatus bot _ (hm id bot hbot))
  | deletedIdle id | deletedRunning id => exact hm.dropBot id
  | mailed id owner name bot mailing hbot =>
    intro other stored hstored
    rw [(mailing_eq publisher mailing m w (Table.key_of_get? hbot)).1] at hstored
    exact hm other stored hstored

theorem every_carryOutAll (publisher : Publisher π) (w : π) {P : Bot → Prop}
    {requests : List Occasion} (hP : ∀ request ∈ requests, Bot.Lasting P request.setting) :
    (carryOutAll publisher ({}, w) requests).1.Every P := by
  induction requests using List.reverseRecOn with
  | nil => exact nofun
  | append_singleton requests request ih =>
    rw [carryOutAll_concat]
    obtain ⟨hrequests, hrequest⟩ := List.forall_mem_append.1 hP
    exact (handle_effect publisher request.layout request.setting _ _ request.command).every
      (hrequest request List.mem_cons_self) (ih hrequests)

theorem coherent_carryOutAll (publisher : Publisher π) (w : π)
    (requests : List Occasion) :
    (carryOutAll publisher ({}, w) requests).1.Coherent :=
  every_carryOutAll publisher w fun request _ => Bot.consistent_lasting request.setting

end Engine

end ScriptedChat
