import Mathlib.Logic.Function.Basic
import ScriptedChat.Proofs.History

/-!
What a step does to the status and the credential that are recorded for each bot, together with
the orders to channel sessions that it publishes. Only six sorts of steps change what is recorded,
each for one bot; a resume orders sessions for all started bots and changes nothing.
-/
namespace ScriptedChat

/-- The status and the credential of each stored bot. -/
abbrev Listing := Uuid → Option (BotStatus × String)

namespace Memory

variable {m : Memory}

def listing (m : Memory) : Listing := fun id =>
  (m.bots.get? id).map fun bot => (bot.status, bot.token)

theorem listing_of_get? {id : Uuid} {bot : Bot} (h : m.bots.get? id = some bot) :
    m.listing id = some (bot.status, bot.token) := by
  rw [listing, h]
  rfl

theorem listing_eq_some_iff {id : Uuid} {status : BotStatus} {token : String} :
    m.listing id = some (status, token) ↔
      ∃ bot, m.bots.get? id = some bot ∧ bot.status = status ∧ bot.token = token := by
  rw [listing, Option.map_eq_some_iff]
  simp only [Prod.mk.injEq]

theorem listing_congr {m' : Memory} (h : m'.bots = m.bots) : m'.listing = m.listing := by
  unfold listing
  rw [h]

theorem listing_saveBot (m : Memory) (bot : Bot) :
    (m.saveBot bot).listing = Function.update m.listing bot.id (some (bot.status, bot.token)) := by
  funext id
  by_cases hid : bot.id = id
  · subst hid
    simp [listing, get?_saveBot]
  · simp [listing, get?_saveBot, hid, Function.update_of_ne (Ne.symm hid)]

/-- A stored bot that keeps its status and its credential is listed as before. -/
theorem listing_saveBot_of_same {id : Uuid} {bot changed : Bot}
    (hbot : m.bots.get? id = some bot) (hid : changed.id = bot.id)
    (hstatus : changed.status = bot.status) (htoken : changed.token = bot.token) :
    (m.saveBot changed).listing = m.listing := by
  have hkey : bot.id = id := Table.key_of_get? hbot
  rw [listing_saveBot, hid, hstatus, htoken, hkey, ← listing_of_get? hbot, Function.update_eq_self]

theorem listing_setStatus {id : Uuid} {bot : Bot} (hbot : m.bots.get? id = some bot)
    (status : BotStatus) (now : Time) :
    (m.saveBot (bot.setStatus status now)).listing =
      Function.update m.listing id (some (status, bot.token)) := by
  have hkey : bot.id = id := Table.key_of_get? hbot
  subst hkey
  exact listing_saveBot m (bot.setStatus status now)

theorem listing_dropBot (m : Memory) (id : Uuid) :
    (m.dropBot id).listing = Function.update m.listing id none := by
  funext other
  by_cases hid : id = other
  · subst hid
    simp [listing, get?_dropBot]
  · simp [listing, get?_dropBot, hid, Function.update_of_ne (Ne.symm hid)]

end Memory

namespace Step

/-- The orders to channel sessions that a step published. -/
def orders (step : Step) : List Envelope :=
  match step.command, step.outcome with
  | .startBot id _, .ok _ => Engine.starts (step.before.bots.get? id).toList
  | .stopBot id _, .ok _ => [.lifecycle (.stop id)]
  | .deleteBot id _, .ok _ =>
    if (step.before.bots.get? id).any fun bot => bot.status = .started then
      [.lifecycle (.stop id)]
    else []
  | .resume, .ok _ => Engine.starts (step.before.bots.rows.filter fun bot => bot.status = .started)
  | _, _ => []

/-- Whether a step deletes a bot that is recorded as failed. -/
def Abandons (id : Uuid) (step : Step) : Prop :=
  step.outcome = .ok .done ∧ (∃ owner, step.command = .deleteBot id owner) ∧
    ∃ bot, step.before.bots.get? id = some bot ∧ bot.status = .failed

/-- What a step does to the listing of the bots, with what it orders. -/
inductive Relists (step : Step) : Listing → Prop
  | nothing (horders : step.orders = []) : Relists step step.before.listing
  | created (id : Uuid) (token : String) (hfree : step.before.listing id = none)
      (horders : step.orders = []) :
      Relists step (Function.update step.before.listing id (some (.stopped, token)))
  | started (id : Uuid) (bot : Bot) (hbot : step.before.bots.get? id = some bot)
      (horders : step.orders = Engine.starts [bot]) :
      Relists step (Function.update step.before.listing id (some (.started, bot.token)))
  | startFailed (id : Uuid) (bot : Bot) (reason : String)
      (hbot : step.before.bots.get? id = some bot) (horders : step.orders = [])
      (hfailed : step.outcome = .error (.publish reason)) :
      Relists step (Function.update step.before.listing id (some (.failed, bot.token)))
  | stopped (id : Uuid) (bot : Bot) (hbot : step.before.bots.get? id = some bot)
      (horders : step.orders = [.lifecycle (.stop id)]) :
      Relists step (Function.update step.before.listing id (some (.stopped, bot.token)))
  | deletedIdle (id : Uuid) (bot : Bot) (hbot : step.before.bots.get? id = some bot)
      (hidle : bot.status ≠ .started) (habandons : bot.status = .failed → step.Abandons id)
      (horders : step.orders = []) :
      Relists step (Function.update step.before.listing id none)
  | deletedRunning (id : Uuid) (horders : step.orders = [.lifecycle (.stop id)]) :
      Relists step (Function.update step.before.listing id none)
  | resumed (horders : step.orders =
        Engine.starts (step.before.bots.rows.filter fun bot => bot.status = .started)) :
      Relists step step.before.listing

theorem Relists.of_eq {step : Step} {l l' : Listing} (h : step.Relists l) (heq : l' = l) :
    step.Relists l' := by
  rw [heq]
  exact h

end Step

namespace Engine

variable {π : Type} {publisher : Publisher π} {setting : Setting} {m : Memory} {w : π}
  {c : Command} {r : Except Error Reply} {world : Memory × π}

theorem Effect.relists (h : Effect publisher setting m w c r world) :
    Step.Relists ⟨m, c, r⟩ world.1.listing := by
  cases h with
  | refused c e he => exact .nothing (by cases c <;> rfl)
  | created draft bot hbot hfree =>
    obtain ⟨_, _, script, _, hbot⟩ := Bot.create_ok_iff.1 hbot
    subst hbot
    have hnone : m.listing draft.id = none := by rw [Memory.listing, hfree]; rfl
    exact .of_eq (.created draft.id draft.token hnone rfl) (Memory.listing_saveBot m _)
  | scriptSet id owner entries blocks bot changed hbot howner hchange =>
    obtain ⟨script, _, _, hchanged⟩ := Bot.setScript_ok_iff.1 hchange
    subst hchanged
    exact .of_eq (.nothing rfl) (Memory.listing_saveBot_of_same hbot rfl rfl rfl)
  | mailingAdded id owner mailing bot changed hbot howner hchange =>
    obtain ⟨_, _, _, hchanged⟩ := Bot.addMailing_ok_iff.1 hchange
    subst hchanged
    exact .of_eq (.nothing rfl) (Memory.listing_saveBot_of_same hbot rfl rfl rfl)
  | started id owner bot hbot howner hpublish =>
    have horders : Step.orders ⟨m, .startBot id owner, .ok .done⟩ = starts [bot] := by
      simp [Step.orders, hbot]
    exact .of_eq (.started id bot hbot horders) (Memory.listing_setStatus hbot _ _)
  | startFailed id owner bot reason hbot howner hpublish =>
    exact .of_eq (.startFailed id bot reason hbot rfl rfl) (Memory.listing_setStatus hbot _ _)
  | stopped id owner bot hbot howner hpublish =>
    exact .of_eq (.stopped id bot hbot rfl) (Memory.listing_setStatus hbot _ _)
  | stopFailed => exact .nothing rfl
  | deletedIdle id owner bot hbot howner hidle =>
    have horders : Step.orders ⟨m, .deleteBot id owner, .ok .done⟩ = [] := by
      simp [Step.orders, hbot, hidle]
    have habandons : bot.status = .failed →
        Step.Abandons id ⟨m, .deleteBot id owner, .ok .done⟩ := by
      intro hfailed
      exact ⟨rfl, ⟨owner, rfl⟩, bot, hbot, hfailed⟩
    exact .of_eq (.deletedIdle id bot hbot hidle habandons horders) (Memory.listing_dropBot m id)
  | deletedRunning id owner bot hbot howner hrunning hpublish =>
    have horders : Step.orders ⟨m, .deleteBot id owner, .ok .done⟩ = [.lifecycle (.stop id)] := by
      simp [Step.orders, hbot, hrunning]
    exact .of_eq (.deletedRunning id horders) (Memory.listing_dropBot m id)
  | deleteFailed => exact .nothing rfl
  | entered => exact .nothing rfl
  | processed => exact .nothing rfl
  | mailed id owner name bot mailing hbot howner hmailing =>
    have hbots := (mailing_eq publisher mailing m w (Table.key_of_get? hbot)).1
    exact .of_eq (.nothing rfl) (Memory.listing_congr hbots)
  | resumed => exact .resumed rfl
  | resumeFailed => exact .nothing rfl
  | resumedNone hnone => exact .nothing (by simp only [Step.orders, hnone, starts, List.map_nil])

/-- Where no publish fails, no step tells that one failed. -/
theorem Effect.outcome_ne (h : Effect publisher setting m w c r world)
    (hok : ∀ batch, published publisher batch w = .ok ()) (reason : String) :
    r ≠ .error (.publish reason) := by
  have hannounce : ∀ address messages, (announce publisher address messages w).1 = .ok () := by
    intro address messages
    unfold announce
    split
    · rfl
    · exact hok _
  have hnever : ∀ {batch reason}, published publisher batch w = .error (.publish reason) →
      False := by
    intro batch reason hpublish
    rw [hok] at hpublish
    cases hpublish
  intro hr
  cases h with
  | refused c e he =>
    cases hr
    exact he
  | created => cases hr
  | scriptSet => cases hr
  | mailingAdded => cases hr
  | started => cases hr
  | startFailed id owner bot reason hbot howner hpublish => exact hnever hpublish
  | stopped => cases hr
  | stopFailed id owner bot reason hbot howner hpublish => exact hnever hpublish
  | deletedIdle => cases hr
  | deletedRunning => cases hr
  | deleteFailed id owner bot reason hbot howner hrunning hpublish => exact hnever hpublish
  | entered =>
    rw [hannounce] at hr
    cases hr
  | processed =>
    rw [hannounce] at hr
    cases hr
  | mailed => cases hr
  | resumed => cases hr
  | resumeFailed started reason hstarted hne hpublish => exact hnever hpublish
  | resumedNone => cases hr

end Engine

end ScriptedChat
