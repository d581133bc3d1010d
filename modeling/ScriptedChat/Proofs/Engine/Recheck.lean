import ScriptedChat.Proofs.Engine.Mailing
import ScriptedChat.Proofs.Report

/-!
The turn of one user in a mailing. The audience is listed before the first turn, so when the turn
of a user comes, other commands may have moved the participant or may have deleted it together with
its bot. A participant that is still stored is looked at again: it enters only while it waits for
the mailing, and the stores stay as they are when it does not, or when the entry fails. A user who
is no longer stored is taken for one who never entered. So the user is stored again, and a mailing
to those who are at the end of the script even sends the user its messages.
-/
namespace ScriptedChat.Engine

open ScriptedChat.Action

variable {π : Type} {publisher : Publisher π} {layout : Memory.Layout} {bot : Bot}
  {mailing : Mailing} {m : Memory} {w : π} {user : UserId}

/-- How the turn of a user ends who is found as a participant `p`: what is answered, and the stores
after it. Those after the turn of a participant that does not wait for the mailing are `passed`. -/
inductive Recheck (bot : Bot) (mailing : Mailing) (m : Memory) (p : Participant)
    (passed : Memory) : Except Error (Option (List Message)) → Memory → Prop
  | entered (messages : List Message) (q : Participant) (hwaits : p.state = mailing.requiredState)
      (henter : p.enter bot.script mailing.entryKey = .ok (messages, q)) :
      Recheck bot mailing m p passed (.ok (some messages)) (m.saveParticipant q)
  | failed (e : Error) (hwaits : p.state = mailing.requiredState)
      (henter : p.enter bot.script mailing.entryKey = .error e) :
      Recheck bot mailing m p passed (.error e) m
  | moved (hmoved : p.state ≠ mailing.requiredState) :
      Recheck bot mailing m p passed (.ok none) passed

namespace Recheck

variable {p : Participant} {passed after : Memory} {r : Except Error (Option (List Message))}

/-- Messages are answered exactly when the participant waits for the mailing and can enter. -/
theorem enters_iff (h : Recheck bot mailing m p passed r after) :
    (∃ messages, r = .ok (some messages)) ↔ p.state = mailing.requiredState ∧
      ∃ outcome, p.enter bot.script mailing.entryKey = .ok outcome := by
  cases h with
  | entered messages q hwaits henter =>
    exact iff_of_true ⟨messages, rfl⟩ ⟨hwaits, (messages, q), henter⟩
  | failed e hwaits henter =>
    refine iff_of_false ?_ ?_
    · intro h
      obtain ⟨_, heq⟩ := h
      cases heq
    · intro h
      obtain ⟨_, _, hok⟩ := h
      rw [henter] at hok
      cases hok
  | moved hmoved =>
    refine iff_of_false ?_ fun h => hmoved h.1
    intro h
    obtain ⟨_, heq⟩ := h
    cases heq

/-- Only the participant that is found may be changed. -/
theorem others (h : Recheck bot mailing m p passed r after) {address : Address}
    (hpassed : passed.participants.get? address = m.participants.get? address)
    (hother : address ≠ p.address) :
    after.participants.get? address = m.participants.get? address := by
  cases h with
  | entered messages q hwaits henter =>
    rw [Memory.get?_saveParticipant, Participant.enter_address henter, if_neg (Ne.symm hother)]
  | failed => rfl
  | moved => exact hpassed

theorem bots (h : Recheck bot mailing m p passed r after) (hpassed : passed.bots = m.bots) :
    after.bots = m.bots := by
  cases h with
  | entered => rfl
  | failed => rfl
  | moved => exact hpassed

end Recheck

/-- The turn of a user goes by the participant as the stores have it then, and publishes nothing. -/
theorem exec_enterIfParked (publisher : Publisher π) (bot : Bot) (mailing : Mailing) (m : Memory)
    (w : π) (user : UserId) :
    ∃ r after,
      exec ((inMemory publisher layout).enterIfParked bot mailing user) (m, w) = (r, (after, w)) ∧
      Recheck bot mailing m (m.participantAt ⟨bot.id, user⟩)
        (m.saveParticipant (m.participantAt ⟨bot.id, user⟩)) r after := by
  generalize hat : m.participantAt ⟨bot.id, user⟩ = p
  by_cases hwaits : p.state = mailing.requiredState
  · cases henter : p.enter bot.script mailing.entryKey with
    | ok outcome =>
      obtain ⟨messages, q⟩ := outcome
      refine ⟨_, _, ?_, .entered messages q hwaits henter⟩
      simp [enterIfParked, Stores.within, Memory.stores, Memory.exec_updateParticipant, hat, hwaits,
        henter, Except.map]
    | error e =>
      refine ⟨_, _, ?_, .failed e hwaits henter⟩
      simp [enterIfParked, Stores.within, Memory.stores, Memory.exec_updateParticipant, hat, hwaits,
        henter, Except.map]
  · refine ⟨_, _, ?_, .moved hwaits⟩
    simp [enterIfParked, Stores.within, Memory.stores, Memory.exec_updateParticipant, hat, hwaits]

/-- A user who is not stored is stored after the turn, unless the mailing is to those who are at the
end of the script and the entry fails. -/
theorem Recheck.stored_iff {address : Address} {r : Except Error (Option (List Message))}
    {after : Memory} (hnone : m.participants.get? address = none)
    (h : Recheck bot mailing m (.fresh address) (m.saveParticipant (.fresh address)) r after) :
    (after.participants.get? address).isSome ↔ ¬ (mailing.requiredState = finished ∧
      ∃ e, (Participant.fresh address).enter bot.script mailing.entryKey = .error e) := by
  cases h with
  | entered messages q hwaits henter =>
    have haddress : q.address = address := Participant.enter_address henter
    refine iff_of_true ?_ ?_
    · rw [Memory.get?_saveParticipant, if_pos haddress]
      rfl
    · intro h
      obtain ⟨_, e, herror⟩ := h
      rw [henter] at herror
      cases herror
  | failed e hwaits henter =>
    refine iff_of_false ?_ ?_
    · rw [hnone]
      exact Bool.false_ne_true
    · intro h
      exact h ⟨hwaits.symm, e, henter⟩
  | moved hmoved =>
    have haddress : (Participant.fresh address).address = address := rfl
    refine iff_of_true ?_ fun h => hmoved h.1.symm
    rw [Memory.get?_saveParticipant, if_pos haddress]
    rfl

/-- Whatever became of the stores since the audience was listed, the turn of a user changes no bot
and no other participant and publishes nothing. A participant that is stored enters exactly when it
waits for the mailing and can enter, and the stores stay as they are otherwise. A user who is not
stored is treated as one who never entered, and is stored unless the entry fails. -/
theorem enterIfParked_rechecks (publisher : Publisher π) (bot : Bot) (mailing : Mailing)
    (m : Memory) (w : π) (user : UserId) :
    ∃ r after,
      exec ((inMemory publisher layout).enterIfParked bot mailing user) (m, w) = (r, (after, w)) ∧
      after.bots = m.bots ∧
      (∀ other ≠ ⟨bot.id, user⟩, after.participants.get? other = m.participants.get? other) ∧
      (∀ p, m.participants.get? ⟨bot.id, user⟩ = some p →
        Recheck bot mailing m p m r after ∧
        ((∃ messages, r = .ok (some messages)) ↔ p.state = mailing.requiredState ∧
          ∃ outcome, p.enter bot.script mailing.entryKey = .ok outcome)) ∧
      (m.participants.get? ⟨bot.id, user⟩ = none →
        Recheck bot mailing m (.fresh ⟨bot.id, user⟩) (m.saveParticipant (.fresh ⟨bot.id, user⟩))
          r after ∧
        ((after.participants.get? ⟨bot.id, user⟩).isSome ↔ ¬ (mailing.requiredState = finished ∧
          ∃ e, (Participant.fresh ⟨bot.id, user⟩).enter bot.script mailing.entryKey =
            .error e))) := by
  obtain ⟨r, after, hexec, hturn⟩ := exec_enterIfParked publisher bot mailing m w user
  have haddress := m.participantAt_address ⟨bot.id, user⟩
  refine ⟨r, after, hexec, hturn.bots rfl, ?_, ?_, ?_⟩
  · intro other hother
    refine hturn.others ?_ (by rw [haddress]; exact hother)
    rw [Memory.get?_saveParticipant, haddress, if_neg (Ne.symm hother)]
  · intro p hp
    have hkey : p.address = ⟨bot.id, user⟩ := Table.key_of_get? hp
    rw [Memory.participantAt_of_get? hp, Memory.saveParticipant_self (by rw [hkey, hp])] at hturn
    exact ⟨hturn, hturn.enters_iff⟩
  · intro hnone
    have hfresh : m.participantAt ⟨bot.id, user⟩ = .fresh ⟨bot.id, user⟩ := by
      rw [Memory.participantAt, hnone]
      rfl
    rw [hfresh] at hturn
    exact ⟨hturn, hturn.stored_iff hnone⟩

/-- A user who still waits for a mailing enters, and one who was deleted is stored again. -/
theorem enterIfParked_rechecks_gone :
    let id : Uuid := ⟨1⟩
    let bot : Bot := ⟨id, 5, "Shop", "token", .stopped,
      .restore [⟨"start", 1⟩] [⟨1, 0, "Name", "Who are you?", .question⟩], [], ⟨0⟩, ⟨0⟩⟩
    let m : Memory := { participants := .ofList [⟨⟨id, 8⟩, 1, .empty⟩] }
    let turn := fun (mailing : Mailing) (user : UserId) =>
      exec ((inMemory Recorder.publish .flat).enterIfParked bot mailing user) (m, {})
    (∃ messages, (turn ⟨"asked", "start", 1⟩ 8).1 = .ok (some messages)) ∧
      ((turn ⟨"idle", "start", finished⟩ 7).2.1.participants.get? ⟨id, 7⟩).isSome := by
  intro id bot m turn
  have hstored : m.participants.get? ⟨id, 8⟩ = some ⟨⟨id, 8⟩, 1, .empty⟩ := by decide +kernel
  have hgone : m.participants.get? ⟨id, 7⟩ = none := by decide +kernel
  have hwaiting : (Participant.mk ⟨id, 8⟩ 1 .empty).enter bot.script "start" =
      .ok ([⟨"Who are you?", []⟩], ⟨⟨id, 8⟩, 1, .empty⟩) := by decide +kernel
  have hfresh : (Participant.fresh ⟨id, 7⟩).enter bot.script "start" =
      .ok ([⟨"Who are you?", []⟩], ⟨⟨id, 7⟩, 1, .empty⟩) := by decide +kernel
  constructor
  · obtain ⟨r, after, hexec, _, _, hturn, _⟩ :=
      enterIfParked_rechecks Recorder.publish bot ⟨"asked", "start", 1⟩ m {} 8
    rw [show turn ⟨"asked", "start", 1⟩ 8 = _ from hexec]
    exact (hturn _ hstored).2.2 ⟨rfl, _, hwaiting⟩
  · obtain ⟨r, after, hexec, _, _, _, hturn⟩ :=
      enterIfParked_rechecks Recorder.publish bot ⟨"idle", "start", finished⟩ m {} 7
    rw [show turn ⟨"idle", "start", finished⟩ 7 = _ from hexec]
    refine (hturn hgone).2.2 ?_
    intro h
    obtain ⟨_, e, herror⟩ := h
    cases herror.symm.trans hfresh

/-- The audience of a mailing is listed, its only user is deleted with the bot, and the turn of the
user stores the user again and returns messages. -/
theorem deleted_user_enters :
    let id : Uuid := ⟨1⟩
    let entries : List EntryPoint := [⟨"start", 1⟩]
    let blocks : List Block := [⟨1, 0, "Name", "Who are you?", .question⟩]
    let mailing : Mailing := ⟨"again", "start", finished⟩
    let bot : Bot := ⟨id, 5, "Shop", "token", .stopped, .restore entries blocks, [mailing], ⟨0⟩, ⟨0⟩⟩
    let requests : List Occasion :=
      [.createBot ⟨id, 5, "Shop", "token", entries, blocks⟩, .addMailing id 5 mailing,
        .enter ⟨id, 7⟩ "start", .process ⟨id, 7⟩ "Ann"].map fun c => ⟨.flat, ⟨⟨0⟩, .permissive⟩, c⟩
    let listed := carryOutAll Recorder.publish ({}, {}) requests
    let found := carryOut Recorder.publish listed ⟨.flat, ⟨⟨0⟩, .permissive⟩, .deleteBot id 5⟩
    let turn := exec ((inMemory Recorder.publish .flat).enterIfParked bot mailing 7) found
    listed.1.bots.get? id = some bot ∧ bot.mailing? "again" = some mailing ∧
      audience listed.1 id mailing.requiredState = [7] ∧
      found.1.bots.get? id = none ∧ found.1.participants.get? ⟨id, 7⟩ = none ∧
      turn.1 = .ok (some [⟨"Who are you?", []⟩]) ∧
      turn.2.1.participants.get? ⟨id, 7⟩ = some ⟨⟨id, 7⟩, 1, .empty⟩ := by
  decide +kernel

end ScriptedChat.Engine
