import Mathlib.Data.List.Nodup
import ScriptedChat.Proofs.Actions
import ScriptedChat.Proofs.Bots
import ScriptedChat.Proofs.Script.Descent

/-!
Bots stay consistent. The script of a bot is well formed, its mailings have names of their own,
and each of them points at an entry point and at a state of the script. A new bot is consistent,
and every change keeps this: a new script is checked against the mailings that are there, a new
mailing against the script. Changes are written to a bot field by field; all checks come before
the first of these writes, so a refused change writes nothing.
-/
namespace ScriptedChat

namespace Bot

variable {bot changed : Bot} {cycles : CyclePolicy} {now : Time} {script : Script}
  {mailing : Mailing}

theorem checkTargets_ok_iff :
    checkTargets script mailing = .ok () ↔
      (script.entry? mailing.entryKey).isSome ∧ script.HasState mailing.requiredState := by
  unfold checkTargets Script.HasState
  cases script.entry? mailing.entryKey with
  | none => simp
  | some e =>
    by_cases hfin : mailing.requiredState = finished
    · simp [hfin]
    · cases script.block? mailing.requiredState <;> simp [hfin]

theorem mailing?_eq_none_iff {name : String} :
    bot.mailing? name = none ↔ ∀ m ∈ bot.mailings, m.name ≠ name := by
  simp [mailing?]

/-- A bot whose parts fit together. -/
structure Consistent (bot : Bot) : Prop where
  script : Script.WellFormed bot.script.entries.rows bot.script.blocks.rows .permissive
  names_filled : ∀ m ∈ bot.mailings, ¬ Text.isBlank m.name
  names_nodup : (bot.mailings.map Mailing.name).Nodup
  keys_exist : ∀ m ∈ bot.mailings, (bot.script.entry? m.entryKey).isSome
  states_exist : ∀ m ∈ bot.mailings, bot.script.HasState m.requiredState

theorem consistent_of_create {draft : BotDraft} (h : create draft cycles now = .ok bot) :
    bot.Consistent := by
  obtain ⟨_, _, script, hbuild, rfl⟩ := create_ok_iff.1 h
  exact {
    script := (Script.wellFormed_rows_of_build hbuild).permissive
    names_filled := fun _ hm => absurd hm List.not_mem_nil
    names_nodup := List.nodup_nil
    keys_exist := fun _ hm => absurd hm List.not_mem_nil
    states_exist := fun _ hm => absurd hm List.not_mem_nil }

namespace Consistent

theorem setScript (h : bot.Consistent) {entries : List EntryPoint} {blocks : List Block}
    (hchange : bot.setScript entries blocks cycles now = .ok changed) : changed.Consistent := by
  obtain ⟨script, hbuild, htargets, rfl⟩ := setScript_ok_iff.1 hchange
  have hfit : ∀ m ∈ bot.mailings,
      (script.entry? m.entryKey).isSome ∧ script.HasState m.requiredState := by
    intro m hm
    exact checkTargets_ok_iff.1 (Outcome.forM_ok_iff.1 htargets m hm)
  exact {
    script := (Script.wellFormed_rows_of_build hbuild).permissive
    names_filled := h.names_filled
    names_nodup := h.names_nodup
    keys_exist := fun m hm => (hfit m hm).1
    states_exist := fun m hm => (hfit m hm).2 }

theorem addMailing (h : bot.Consistent) (hchange : bot.addMailing mailing now = .ok changed) :
    changed.Consistent := by
  obtain ⟨hfilled, hfree, htargets, rfl⟩ := addMailing_ok_iff.1 hchange
  obtain ⟨hkey, hstate⟩ := checkTargets_ok_iff.1 htargets
  exact {
    script := h.script
    names_filled := List.forall_mem_append.2
      ⟨h.names_filled, List.forall_mem_singleton.2 hfilled⟩
    names_nodup := by
      rw [List.map_append, List.map_singleton, ← List.concat_eq_append]
      apply List.Nodup.concat ?_ h.names_nodup
      intro htaken
      obtain ⟨m, hm, hname⟩ := List.mem_map.1 htaken
      exact mailing?_eq_none_iff.1 hfree m hm hname
    keys_exist := List.forall_mem_append.2 ⟨h.keys_exist, List.forall_mem_singleton.2 hkey⟩
    states_exist := List.forall_mem_append.2
      ⟨h.states_exist, List.forall_mem_singleton.2 hstate⟩ }

theorem setStatus (h : bot.Consistent) (status : BotStatus) (now : Time) :
    (bot.setStatus status now).Consistent :=
  ⟨h.script, h.names_filled, h.names_nodup, h.keys_exist, h.states_exist⟩

end Consistent

end Bot

/-- The calls that change a bot, and the one that rebuilds it from what it is stored as. -/
inductive BotCall
  | setScript (entries : List EntryPoint) (blocks : List Block) (cycles : CyclePolicy)
      (now : Time)
  | addMailing (mailing : Mailing) (now : Time)
  | setStatus (status : BotStatus) (now : Time)
  | restore
  deriving DecidableEq

namespace BotCall

variable {bot changed : Bot} {call : BotCall} {done : List BotCall}

/-- What a call makes of a bot. -/
def change (bot : Bot) : BotCall → Except Error Bot
  | .setScript entries blocks cycles now => bot.setScript entries blocks cycles now
  | .addMailing mailing now => bot.addMailing mailing now
  | .setStatus status now => .ok (bot.setStatus status now)
  | .restore => .ok bot.restored

/-- A call that works on a bot in its place: all checks, and then one field after the other. -/
def perform : BotCall → Action Bot Unit
  | .setScript entries blocks cycles now => do
    let script ← Script.build entries blocks cycles
    (← get).mailings.forM fun mailing => liftM (Bot.checkTargets script mailing)
    modify fun bot => { bot with script := script }
    modify fun bot => { bot with updatedAt := now }
  | .addMailing mailing now => do
    if Text.isBlank mailing.name then throw (.invalidInput .emptyMailingName)
    if ((← get).mailing? mailing.name).isSome then throw (.mailingDuplicated mailing.name)
    Bot.checkTargets (← get).script mailing
    modify fun bot => { bot with mailings := bot.mailings ++ [mailing] }
    modify fun bot => { bot with updatedAt := now }
  | .setStatus status now => do
    modify fun bot => { bot with status := status }
    modify fun bot => { bot with updatedAt := now }
  | .restore => modify Bot.restored

/-- The mailing that a call adds. -/
def mailing? : BotCall → Option Mailing
  | .addMailing mailing _ => some mailing
  | _ => none

/-- The time at which a call changes a bot; rebuilding does not change it. -/
def time? : BotCall → Option Time
  | .setScript _ _ _ now | .addMailing _ now | .setStatus _ now => some now
  | .restore => none

/-- Working in place comes to the same as replacing the bot by the changed one, or by none. -/
theorem exec_perform (call : BotCall) (bot : Bot) :
    Action.exec call.perform bot =
      match call.change bot with
      | .ok changed => (.ok (), changed)
      | .error e => (.error e, bot) := by
  cases call with
  | setScript entries blocks cycles now =>
    simp only [perform, change, Bot.setScript, Action.exec_bind, Action.exec_lift]
    cases Script.build entries blocks cycles with
    | error e => rfl
    | ok script =>
      simp only [Action.exec_get, Action.exec_forM_lift, Outcome.ok_bind]
      cases bot.mailings.forM (Bot.checkTargets script) with
      | error e => rfl
      | ok _ => rfl
  | addMailing mailing now =>
    simp only [perform, change, Bot.addMailing, Outcome.throw_eq, Outcome.error_bind]
    by_cases hblank : Text.isBlank mailing.name
    · simp [hblank]
    · cases htaken : (bot.mailing? mailing.name).isSome with
      | true => simp [hblank, htaken, Action.exec_bind]
      | false =>
        cases htargets : Bot.checkTargets bot.script mailing with
        | error e => simp [hblank, htaken, htargets, Action.exec_bind]
        | ok _ => simp [hblank, htaken, htargets, Action.exec_bind]
  | setStatus status now => rfl
  | restore => rfl

/-- What is left of a bot after some calls, and which of them succeeded. -/
def performAll : List BotCall → Bot → Bot × List BotCall
  | [], bot => (bot, [])
  | call :: rest, bot =>
    match Action.exec call.perform bot with
    | (.ok (), after) => ((performAll rest after).1, call :: (performAll rest after).2)
    | (.error _, after) => performAll rest after

/-- A bot as it is made from a draft and changed by the calls that succeeded since. -/
structure Reflects (draft : BotDraft) (created : Time) (done : List BotCall) (bot : Bot) :
    Prop where
  consistent : bot.Consistent
  id : bot.id = draft.id
  owner : bot.owner = draft.owner
  name : bot.name = draft.name
  token : bot.token = draft.token
  createdAt : bot.createdAt = created
  mailings : bot.mailings = done.filterMap mailing?
  updatedAt : bot.updatedAt = (done.filterMap time?).getLast?.getD created

variable {draft : BotDraft} {created : Time}

theorem reflects_of_create {cycles : CyclePolicy} (h : Bot.create draft cycles created = .ok bot) :
    Reflects draft created [] bot := by
  have hconsistent := Bot.consistent_of_create h
  obtain ⟨_, _, script, _, rfl⟩ := Bot.create_ok_iff.1 h
  exact ⟨hconsistent, rfl, rfl, rfl, rfl, rfl, rfl, rfl⟩

/-- A call that succeeds is one more that the bot reflects. -/
theorem Reflects.change (h : Reflects draft created done bot)
    (hchange : call.change bot = .ok changed) :
    Reflects draft created (done ++ [call]) changed := by
  cases call with
  | setScript entries blocks cycles now =>
    have hconsistent := h.consistent.setScript hchange
    obtain ⟨script, _, _, rfl⟩ := Bot.setScript_ok_iff.1 hchange
    exact ⟨hconsistent, h.id, h.owner, h.name, h.token, h.createdAt,
      by simp [h.mailings, mailing?], by simp [time?]⟩
  | addMailing mailing now =>
    have hconsistent := h.consistent.addMailing hchange
    obtain ⟨_, _, _, rfl⟩ := Bot.addMailing_ok_iff.1 hchange
    exact ⟨hconsistent, h.id, h.owner, h.name, h.token, h.createdAt,
      by simp [h.mailings, mailing?], by simp [time?]⟩
  | setStatus status now =>
    cases hchange
    exact ⟨h.consistent.setStatus status now, h.id, h.owner, h.name, h.token, h.createdAt,
      by simp [Bot.setStatus, h.mailings, mailing?], by simp [Bot.setStatus, time?]⟩
  | restore =>
    cases hchange
    rw [Bot.restored_eq]
    exact ⟨h.consistent, h.id, h.owner, h.name, h.token, h.createdAt,
      by simp [h.mailings, mailing?], by simp [h.updatedAt, time?]⟩

theorem Reflects.performAll (h : Reflects draft created done bot) (calls : List BotCall) :
    Reflects draft created (done ++ (performAll calls bot).2) (performAll calls bot).1 := by
  induction calls generalizing bot done with
  | nil => simpa [BotCall.performAll] using h
  | cons call rest ih =>
    rw [BotCall.performAll, exec_perform]
    cases hchange : call.change bot with
    | error e => exact ih h
    | ok changed => simpa using ih (h.change hchange)

/-- Whatever calls are made on a new bot, it stays consistent and reflects those that succeeded;
a call that fails leaves it as it was. -/
theorem bot_stays_consistent {cycles : CyclePolicy}
    (hcreate : Bot.create draft cycles created = .ok bot) (calls : List BotCall) :
    let after := (performAll calls bot).1
    Reflects draft created (performAll calls bot).2 after ∧
      ∀ call : BotCall,
        (∀ changed, call.change after = .ok changed →
          Action.exec call.perform after = (.ok (), changed)) ∧
        ∀ e, call.change after = .error e → Action.exec call.perform after = (.error e, after) := by
  intro after
  refine ⟨by simpa using (reflects_of_create hcreate).performAll calls, ?_⟩
  intro call
  constructor
  · intro changed hchange
    rw [exec_perform, hchange]
  · intro e hchange
    rw [exec_perform, hchange]

/-- A mailing is added, after which its name is refused to another one, and a script is refused
that has no entry point for it. -/
theorem bot_stays_consistent_news :
    let draft : BotDraft := ⟨⟨1⟩, 5, "Shop", "123:abc", [⟨"start", 1⟩],
      [⟨1, 0, "Name", "Who are you?", .question⟩]⟩
    let calls : List BotCall := [.addMailing ⟨"news", "start", 1⟩ ⟨20⟩,
      .addMailing ⟨"news", "start", 0⟩ ⟨30⟩, .setScript [⟨"hello", 1⟩] draft.blocks .reject ⟨40⟩,
      .setStatus .started ⟨50⟩, .restore]
    ∃ bot, Bot.create draft .reject ⟨10⟩ = .ok bot ∧
      Reflects draft ⟨10⟩ [.addMailing ⟨"news", "start", 1⟩ ⟨20⟩, .setStatus .started ⟨50⟩, .restore]
        (performAll calls bot).1 := by
  intro draft calls
  let bot : Bot := ⟨⟨1⟩, 5, "Shop", "123:abc", .stopped, .restore draft.entries draft.blocks, [],
    ⟨10⟩, ⟨10⟩⟩
  have hcreate : Bot.create draft .reject ⟨10⟩ = .ok bot := by decide +kernel
  have hdone : (performAll calls bot).2 =
      [.addMailing ⟨"news", "start", 1⟩ ⟨20⟩, .setStatus .started ⟨50⟩, .restore] := by
    decide +kernel
  refine ⟨bot, hcreate, ?_⟩
  rw [← hdone]
  exact (bot_stays_consistent hcreate calls).1

end BotCall

end ScriptedChat
