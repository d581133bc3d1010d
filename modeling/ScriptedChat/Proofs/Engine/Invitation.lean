import ScriptedChat.Proofs.Engine.Coherence
import ScriptedChat.Proofs.Engine.Confinement

/-!
A mailing is one entry for everybody it is addressed to. An entry looks at nothing of a participant,
so it fails for all of them or succeeds for all of them with the same messages, and for the
mailings of a stored bot it fails only where messages come round again. Those who wait at the state
of the mailing are taken one after the other by ascending user, each of them still waits when its
turn comes, and none comes twice, wherever the entry takes it. A publish that fails is not counted
and holds up nobody.
-/
namespace ScriptedChat

theorem Script.land_sends {script : Script} {s rest : State} {messages : List Message}
    (hs : (script.block? s).isSome) (h : script.land s = .ok (rest, messages)) :
    messages ≠ [] := by
  obtain ⟨b, hb⟩ := Option.isSome_iff_exists.1 hs
  unfold land at h
  cases hmessage : b.isMessage with
  | true =>
    rw [landFrom_of_message hb hmessage, if_neg List.not_mem_nil, Outcome.map_ok_iff] at h
    obtain ⟨⟨_, rest'⟩, _, heq⟩ := h
    cases heq
    exact List.cons_ne_nil _ _
  | false =>
    rw [landFrom_of_waits hb hmessage] at h
    cases h
    exact List.cons_ne_nil _ _

/-- Whether an entry succeeds, what it sends and where it ends is the same for all participants. -/
theorem Participant.enter_alike (script : Script) (key : String) :
    (∃ e, ∀ p : Participant, p.enter script key = .error e) ∨
      ∃ messages reached rest, ∀ p : Participant,
        p.enter script key = .ok (messages, (p.clear reached).moveTo rest) := by
  cases hentry : script.entry? key with
  | none => exact Or.inl ⟨.entryNotFound key, fun p => by simp [enter, hentry]⟩
  | some entry =>
    cases hreached : script.blocks.reachableFrom entry.state with
    | error e => exact Or.inl ⟨e, fun p => by simp [enter, hentry, hreached]⟩
    | ok reached =>
      cases hland : script.land entry.state with
      | error e => exact Or.inl ⟨e, fun p => by simp [enter, hentry, hreached, hland]⟩
      | ok landing =>
        obtain ⟨rest, messages⟩ := landing
        refine Or.inr ⟨messages, reached, rest, fun p => ?_⟩
        exact enter_ok_iff.2 ⟨entry, reached, rest, hentry, hreached, hland, rfl⟩

namespace Engine

open ScriptedChat.Action

variable {π : Type} {publisher : Publisher π} {layout : Memory.Layout} {bot : Bot}
  {mailing : Mailing} {id : Uuid}

theorem audience_ascending (m : Memory) (id : Uuid) (s : State) :
    (audience m id s).Pairwise (· < ·) :=
  List.pairwise_map.2 ((m.listed_ascending id).filter _)

/-- Messages are handed over as one batch, and the outcome is the answer to it. -/
theorem announce_attempt (publisher : Publisher π) (address : Address) {messages : List Message}
    (hmessages : messages ≠ []) (w : π × List Attempt) :
    ∃ a : Attempt, a.batch = addressed address messages ∧
      (announce publisher.watched address messages w).2.2 = w.2 ++ [a] ∧
      (announce publisher.watched address messages w).1.isOk = a.outcome.isOk := by
  have hsome : messages.isEmpty = false := by simpa using hmessages
  refine ⟨⟨addressed address messages, ((publisher (addressed address messages)).run w.1).1⟩,
    rfl, ?_, ?_⟩
  · rw [announce, hsome]
    rfl
  · rw [announce, hsome]
    show (((publisher (addressed address messages)).run w.1).1.mapError Error.ofBus).isOk = _
    cases ((publisher (addressed address messages)).run w.1).1 with
    | error e => rfl
    | ok u => rfl

section Users

variable {messages : List Message} {change : Participant → Participant} {e : Error}
  {users : List UserId}

/-- A user who waits is sent the messages of the entry, in a batch of its own. -/
theorem mailUser_attempt (henter : ∀ p : Participant,
      p.enter bot.script mailing.entryKey = .ok (messages, change p)) (hmessages : messages ≠ [])
    (publisher : Publisher π) {world : Memory × π × List Attempt} {user : UserId}
    {p : Participant} (hp : world.1.participants.get? ⟨bot.id, user⟩ = some p)
    (hwaits : p.state = mailing.requiredState) :
    ∃ a : Attempt, a.batch = addressed ⟨bot.id, user⟩ messages ∧
      (mailUser publisher.watched bot mailing world user).2.2.2 = world.2.2 ++ [a] ∧
      (mailUser publisher.watched bot mailing world user).1 = a.outcome.isOk := by
  obtain ⟨a, hbatch, hattempts, hok⟩ :=
    announce_attempt publisher ⟨bot.id, user⟩ hmessages world.2
  have hat : world.1.participantAt ⟨bot.id, user⟩ = p := Memory.participantAt_of_get? hp
  refine ⟨a, hbatch, ?_, ?_⟩
  · simp only [mailUser, hat, hwaits, if_true, henter, hattempts]
  · simp only [mailUser, hat, hwaits, if_true, henter, hok]

/-- Users who wait are sent the messages one after the other, and those who got them are counted. -/
theorem mailAll_attempts (henter : ∀ p : Participant,
      p.enter bot.script mailing.entryKey = .ok (messages, change p)) (hmessages : messages ≠ [])
    (publisher : Publisher π) (n : Nat) (world : Memory × π × List Attempt)
    (hnodup : users.Nodup)
    (hwaits : ∀ user ∈ users, ∃ p, world.1.participants.get? ⟨bot.id, user⟩ = some p ∧
      p.state = mailing.requiredState) :
    ∃ attempts : List Attempt,
      attempts.map Attempt.batch = users.map (fun user => addressed ⟨bot.id, user⟩ messages) ∧
      (mailAll publisher.watched bot mailing users n world).2.2.2 = world.2.2 ++ attempts ∧
      (mailAll publisher.watched bot mailing users n world).1 =
        n + attempts.countP fun a => a.outcome.isOk := by
  induction users generalizing n world with
  | nil => exact ⟨[], rfl, (List.append_nil _).symm, rfl⟩
  | cons user rest ih =>
    obtain ⟨huser, hrest⟩ := List.nodup_cons.1 hnodup
    obtain ⟨p, hp, hstate⟩ := hwaits user List.mem_cons_self
    obtain ⟨a, hbatch, hattempt, hreached⟩ :=
      mailUser_attempt henter hmessages publisher hp hstate
    have hwaits' := mailUser_waits publisher.watched huser hwaits
    obtain ⟨attempts, hbatches, hattempts, hcount⟩ := ih
      (if (mailUser publisher.watched bot mailing world user).1 then n + 1 else n)
      (mailUser publisher.watched bot mailing world user).2 hrest hwaits'
    refine ⟨a :: attempts, ?_, ?_, ?_⟩
    · rw [List.map_cons, List.map_cons, hbatch, hbatches]
    · rw [mailAll, hattempts, hattempt, List.append_assoc, List.singleton_append]
    · rw [mailAll, hcount, hreached, List.countP_cons]
      split <;> omega

/-- Where the entry fails nothing is changed and nothing is sent. -/
theorem mailAll_of_error (henter : ∀ p : Participant,
      p.enter bot.script mailing.entryKey = .error e) (publisher : Publisher π) (n : Nat)
    (world : Memory × π)
    (hwaits : ∀ user ∈ users, ∃ p, world.1.participants.get? ⟨bot.id, user⟩ = some p ∧
      p.state = mailing.requiredState) :
    mailAll publisher bot mailing users n world = (n, world) := by
  induction users generalizing n world with
  | nil => rfl
  | cons user rest ih =>
    obtain ⟨p, hp, hstate⟩ := hwaits user List.mem_cons_self
    have hat : world.1.participantAt ⟨bot.id, user⟩ = p := Memory.participantAt_of_get? hp
    have huser : mailUser publisher bot mailing world user = (false, world) := by
      simp only [mailUser, hat, hstate, if_true, henter]
    rw [mailAll, huser]
    exact ih n world fun other hother => hwaits other (List.mem_cons_of_mem _ hother)

end Users

/-- The entry of a stored mailing sends something, or fails for messages that come round again. -/
theorem mailing_enter (hsound : bot.script.Accepted) (hbot : bot.Consistent)
    (hmailing : mailing ∈ bot.mailings) :
    (∃ s, ∀ p : Participant,
        p.enter bot.script mailing.entryKey = .error (.runawayScript s)) ∨
      ∃ (messages : List Message) (change : Participant → Participant), messages ≠ [] ∧
        ∀ p : Participant, p.enter bot.script mailing.entryKey = .ok (messages, change p) := by
  obtain ⟨entry, hentry⟩ := Option.isSome_iff_exists.1 (hbot.keys_exist mailing hmailing)
  rcases Participant.enter_alike bot.script mailing.entryKey with
    ⟨e, henter⟩ | ⟨messages, reached, rest, henter⟩
  · obtain ⟨s, rfl⟩ :=
      Participant.enter_error_of_entry hsound hentry (henter (.fresh ⟨bot.id, 0⟩))
    exact Or.inl ⟨s, henter⟩
  · refine Or.inr ⟨messages, fun p => (p.clear reached).moveTo rest, ?_, henter⟩
    obtain ⟨other, _, _, hother, _, hland, _⟩ :=
      Participant.enter_ok_iff.1 (henter (.fresh ⟨bot.id, 0⟩))
    refine Script.land_sends ?_ hland
    exact (hbot.script.hasState_entry hother).resolve_left (hsound.entry_ne_finished hother)

/-- A mailing that the owner of a bot sends, at the end of any run from empty stores and with any
publisher. -/
theorem mailing_enters_once {ρ : Type} (past : Publisher ρ) (start : ρ)
    (requests : List Occasion) (publisher : Publisher π) (w : π) (setting : Setting)
    (hbot : (carryOutAll past ({}, start) requests).1.bots.get? id = some bot)
    (hmailing : mailing ∈ bot.mailings) :
    let m := (carryOutAll past ({}, start) requests).1
    let run := exec ((inMemory publisher.watched layout).handle setting
      (.sendMailing id bot.owner mailing.name)) (m, (w, []))
    let after := run.2.1
    let attempts := run.2.2.2
    ∃ users : List UserId, users.Pairwise (· < ·) ∧
      (∀ user, user ∈ users ↔
        ∃ p, m.participants.get? ⟨id, user⟩ = some p ∧ p.state = mailing.requiredState) ∧
      ((∃ s, ∀ p : Participant,
          p.enter bot.script mailing.entryKey = .error (.runawayScript s)) ∧
          run = (.ok (.count 0), (m, (w, []))) ∨
        ∃ (messages : List Message) (change : Participant → Participant), messages ≠ [] ∧
          (∀ p : Participant,
            p.enter bot.script mailing.entryKey = .ok (messages, change p)) ∧
          after.bots = m.bots ∧
          (∀ address, after.participants.get? address =
            if address.bot = id ∧ address.user ∈ users then
              (m.participants.get? address).map change
            else m.participants.get? address) ∧
          attempts.map Attempt.batch = users.map (fun user => addressed ⟨id, user⟩ messages) ∧
          run.1 = .ok (.count (attempts.countP fun a => a.outcome.isOk))) := by
  intro m run after attempts
  have hsound : m.Sound := (history_tracks past start requests).1
  have hconsistent : bot.Consistent := coherent_carryOutAll past start requests id bot hbot
  have hid : bot.id = id := Table.key_of_get? hbot
  subst hid
  have hrun : run = (.ok (.count (mailAll publisher.watched bot mailing
      (audience m bot.id mailing.requiredState) 0 (m, (w, []))).1),
      (mailAll publisher.watched bot mailing (audience m bot.id mailing.requiredState) 0
        (m, (w, []))).2) :=
    exec_sendMailing publisher.watched setting (w, []) hbot (hconsistent.mailing?_name hmailing)
  have hwaits : ∀ user ∈ audience m bot.id mailing.requiredState,
      ∃ p, m.participants.get? ⟨bot.id, user⟩ = some p ∧ p.state = mailing.requiredState :=
    fun _ huser => mem_audience.1 huser
  have hnodup := audience_nodup m bot.id mailing.requiredState
  refine ⟨audience m bot.id mailing.requiredState, audience_ascending _ _ _,
    fun _ => mem_audience, ?_⟩
  rcases mailing_enter (hsound.accepted_of_get? hbot) hconsistent hmailing with
    ⟨s, henter⟩ | ⟨messages, change, hmessages, henter⟩
  · refine Or.inl ⟨⟨s, henter⟩, ?_⟩
    have hnone := mailAll_of_error henter publisher.watched 0 (m, (w, [])) hwaits
    rw [hrun, hnone]
  · refine Or.inr ⟨messages, change, hmessages, henter, ?_⟩
    obtain ⟨hbots, hget⟩ := mailAll_eq publisher.watched _ 0 (m, (w, [])) hnodup hwaits
    obtain ⟨sent, hbatches, hsent, hcount⟩ :=
      mailAll_attempts henter hmessages publisher 0 (m, (w, [])) hnodup hwaits
    have hmailed : Participant.mailed bot mailing = change := by
      funext p
      rw [Participant.mailed, henter]
    have hattempts : attempts = sent := by
      show run.2.2.2 = sent
      rw [hrun, hsent, List.nil_append]
    rw [hattempts]
    refine ⟨?_, ?_, hbatches, ?_⟩
    · show run.2.1.bots = m.bots
      rw [hrun, hbots]
    · intro address
      show run.2.1.participants.get? address = _
      rw [hrun, hget, hmailed]
    · rw [hrun, hcount, Nat.zero_add]

/-- Two users wait where the mailing takes them back to, a third one has finished; the bus is down
for the first batch of the mailing. -/
theorem mailing_enters_once_retry :
    let id : Uuid := ⟨1⟩
    let entries : List EntryPoint := [⟨"start", 1⟩]
    let blocks : List Block := [⟨1, 2, "Hello", "Hello", .message⟩,
      ⟨2, 0, "Name", "Who are you?", .question⟩]
    let mailing : Mailing := ⟨"again", "start", 2⟩
    let bot : Bot := ⟨id, 5, "Shop", "token", .stopped, .restore entries blocks, [mailing], ⟨0⟩, ⟨0⟩⟩
    let setting : Setting := ⟨⟨0⟩, .permissive⟩
    let requests : List Occasion := [.createBot ⟨id, 5, "Shop", "token", entries, blocks⟩,
      .addMailing id 5 mailing, .enter ⟨id, 9⟩ "start", .enter ⟨id, 7⟩ "start",
      .enter ⟨id, 8⟩ "start", .process ⟨id, 8⟩ "Eve"].map fun c => ⟨.flat, setting, c⟩
    let m := (carryOutAll Recorder.publish ({}, {}) requests).1
    let run := exec ((inMemory Recorder.publish.watched .flat).handle setting
      (.sendMailing id bot.owner mailing.name)) (m, ({ failing := [0] }, []))
    m.bots.get? id = some bot ∧ mailing ∈ bot.mailings ∧
      run.1 = .ok (.count 1) ∧ run.2.2.2.map (fun a => a.outcome.isOk) = [false, true] ∧
      ∃ users : List UserId, users.Pairwise (· < ·) ∧
        (∀ user, user ∈ users ↔
          ∃ p, m.participants.get? ⟨id, user⟩ = some p ∧ p.state = mailing.requiredState) ∧
        ∃ (messages : List Message) (change : Participant → Participant), messages ≠ [] ∧
          (∀ p : Participant,
            p.enter bot.script mailing.entryKey = .ok (messages, change p)) ∧
          run.2.2.2.map Attempt.batch = users.map (fun user => addressed ⟨id, user⟩ messages) ∧
          run.1 = .ok (.count (run.2.2.2.countP fun a => a.outcome.isOk)) := by
  intro id entries blocks mailing bot setting requests m run
  have hbot : m.bots.get? id = some bot := by decide +kernel
  have hmem : mailing ∈ bot.mailings := List.mem_cons_self
  have hcount : run.1 = .ok (.count 1) := by decide +kernel
  have houtcomes : run.2.2.2.map (fun a => a.outcome.isOk) = [false, true] := by decide +kernel
  obtain ⟨users, hascending, hmembers, hrun⟩ := mailing_enters_once Recorder.publish {} requests
    Recorder.publish { failing := [0] } setting hbot hmem
  refine ⟨hbot, hmem, hcount, houtcomes, users, hascending, hmembers, ?_⟩
  have hopen : ((Participant.fresh ⟨id, 0⟩).enter bot.script mailing.entryKey).isOk = true := by
    decide +kernel
  rcases hrun with ⟨⟨s, hfails⟩, _⟩ | ⟨messages, change, hmessages, henter, _, _, hbatches, hreply⟩
  · rw [hfails] at hopen
    cases hopen
  · with_reducible exact ⟨messages, change, hmessages, henter, hbatches, hreply⟩

end Engine

end ScriptedChat
