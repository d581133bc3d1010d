import ScriptedChat.Proofs.Bus.Watching
import ScriptedChat.Proofs.Engine.Publishing
import ScriptedChat.Proofs.Engine.Vacancy

/-!
Commands stay with their bot and their user, in the stores and on the bus. Whatever the publisher
does and however the command ends, nothing but what belongs to its bot is changed, and all that
the publisher is handed is of that bot. A user who takes a step is the only one who is changed, and
is sent what the step returned, as one batch.
-/
namespace ScriptedChat

/-- The messages that a reply returns. -/
def Reply.returned : Reply → List Message
  | .messages sent => sent
  | .transition t => t.messages
  | _ => []

/-- Whether a publisher was handed nothing but envelopes of a bot. -/
def Attempt.IsOf (id : Uuid) (a : Attempt) : Prop := ∀ e ∈ a.batch, e.bot = id.toText

namespace Engine

open ScriptedChat.Action

variable {π : Type} {publisher : Publisher π} {layout : Memory.Layout} {setting : Setting}
  {m : Memory} {w : π × List Attempt} {c : Command} {r : Except Error Reply}
  {world : Memory × π × List Attempt} {id : Uuid} {address : Address} {bot : Bot}
  {mailing : Mailing}

section Attempts

theorem addressed_bot (address : Address) (messages : List Message) :
    ∀ e ∈ addressed address messages, e.bot = address.bot.toText := by
  intro e he
  obtain ⟨message, _, rfl⟩ := List.mem_map.1 he
  rfl

theorem order_bot {order : LifecycleCommand} (horder : order.bot = id.toText) :
    ∀ e ∈ [Envelope.lifecycle order], e.bot = id.toText := by
  intro e he
  rw [List.mem_singleton.1 he]
  exact horder

theorem handed_watched (publisher : Publisher π) (batch : List Envelope)
    (w : π × List Attempt) :
    (handed publisher.watched batch w).2 = w.2 ++ [⟨batch, ((publisher batch).run w.1).1⟩] := rfl

theorem handed_isOf {batch : List Envelope} (hw : ∀ a ∈ w.2, a.IsOf id)
    (hbatch : ∀ e ∈ batch, e.bot = id.toText) :
    ∀ a ∈ (handed publisher.watched batch w).2, a.IsOf id := by
  intro a ha
  rw [handed_watched] at ha
  rcases List.mem_append.1 ha with ha | ha
  · exact hw a ha
  · rw [List.mem_singleton.1 ha]
    exact hbatch

theorem announce_isOf (messages : List Message) (hw : ∀ a ∈ w.2, a.IsOf address.bot) :
    ∀ a ∈ (announce publisher.watched address messages w).2.2, a.IsOf address.bot := by
  unfold announce
  split
  · exact hw
  · exact handed_isOf hw (addressed_bot address messages)

theorem mailUser_isOf (user : UserId) (hw : ∀ a ∈ world.2.2, a.IsOf bot.id) :
    ∀ a ∈ (mailUser publisher.watched bot mailing world user).2.2.2, a.IsOf bot.id := by
  simp only [mailUser]
  split
  · split
    · rename_i messages _ _
      have hannounce : ∀ a ∈ (announce publisher.watched ⟨bot.id, user⟩ messages world.2).2.2,
          a.IsOf bot.id := announce_isOf messages hw
      exact hannounce
    · exact hw
  · exact hw

theorem mailAll_isOf (users : List UserId) (n : Nat) (hw : ∀ a ∈ world.2.2, a.IsOf bot.id) :
    ∀ a ∈ (mailAll publisher.watched bot mailing users n world).2.2.2, a.IsOf bot.id := by
  induction users generalizing n world with
  | nil => exact hw
  | cons user rest ih => exact ih _ (mailUser_isOf user hw)

/-- All that a command hands to the publisher is of the bot that it is about. -/
theorem Effect.isOf (h : Effect publisher.watched setting m w c r world) (hc : c.bot? = some id)
    (hw : ∀ a ∈ w.2, a.IsOf id) : ∀ a ∈ world.2.2, a.IsOf id := by
  cases h with
  | refused | created | scriptSet | mailingAdded | deletedIdle => exact hw
  | started | startFailed | stopped | stopFailed | deletedRunning | deleteFailed =>
    cases hc
    exact handed_isOf hw (order_bot rfl)
  | entered address _ _ messages =>
    cases hc
    exact announce_isOf messages hw
  | processed address _ _ t =>
    cases hc
    exact announce_isOf t.messages hw
  | mailed _ _ _ bot _ hbot =>
    cases hc
    have hid : bot.id = id := Table.key_of_get? hbot
    subst hid
    exact mailAll_isOf _ 0 hw
  | resumed | resumeFailed | resumedNone => cases hc

/-- Messages that were announced were taken as one batch, if there were any. -/
theorem announce_watched {messages : List Message} {u : Unit}
    (h : (announce publisher.watched address messages w).1 = .ok u) :
    (announce publisher.watched address messages w).2.2 =
      w.2 ++ (batchFor address messages).map fun batch => ⟨batch, .ok ()⟩ := by
  unfold announce batchFor at *
  split at h
  · rename_i hnone
    rw [if_pos hnone, if_pos hnone]
    exact (List.append_nil _).symm
  · rename_i hsome
    rw [if_neg hsome, if_neg hsome]
    show (handed publisher.watched (addressed address messages) w).2 = _
    rw [handed_watched]
    have htaken : ((publisher (addressed address messages)).run w.1).1 = .ok () := by
      have h : (((publisher (addressed address messages)).run w.1).1.mapError Error.ofBus) =
        .ok u := h
      cases hrun : ((publisher (addressed address messages)).run w.1).1 with
      | error e =>
        rw [hrun] at h
        cases h
      | ok u => rfl
    rw [htaken]
    rfl

/-- A step of a user that succeeds sends the user what it returns. -/
theorem Effect.attempts_eq {reply : Reply}
    (h : Effect publisher.watched setting m w c (.ok reply) world)
    (hc : c.address? = some address) :
    world.2.2 = w.2 ++ (batchFor address reply.returned).map fun batch => ⟨batch, .ok ()⟩ := by
  generalize hr : (Except.ok reply : Except Error Reply) = r at h
  cases h with
  | refused => cases hr
  | entered target _ _ messages | processed target _ _ t =>
    cases hc
    obtain ⟨u, hannounce, hreply⟩ := Outcome.map_ok_iff.1 hr.symm
    rw [← hreply]
    exact announce_watched hannounce
  | created | scriptSet | mailingAdded | started | startFailed | stopped | stopFailed
  | deletedIdle | deletedRunning | deleteFailed | mailed | resumed | resumeFailed | resumedNone =>
    cases hc

end Attempts

/-- What a command that is about a bot does and leaves alone, for all stores and publishers. -/
theorem command_confined (publisher : Publisher π) (setting : Setting) (m : Memory) (w : π)
    {c : Command} {id : Uuid} (hc : c.bot? = some id) :
    let run := exec ((inMemory publisher.watched layout).handle setting c) (m, (w, []))
    let after := run.2.1
    let attempts := run.2.2.2
    m.AgreeOutside id after ∧
    (∀ a ∈ attempts, ∀ e ∈ a.batch, e.bot = id.toText) ∧
    (c.Administers → after.participants = m.participants) ∧
    (∀ address, c.address? = some address →
      after.bots = m.bots ∧
      (∀ other ≠ address, after.participants.get? other = m.participants.get? other) ∧
      ∀ reply, run.1 = .ok reply →
        attempts = (batchFor address reply.returned).map fun batch => ⟨batch, .ok ()⟩) ∧
    (∀ owner reply, c = .deleteBot id owner → run.1 = .ok reply →
      (m.bots.get? id).isSome ∧ after.Vacant id ∧
      ∀ (requests : List Occasion) (layout' layout'' : Memory.Layout) (setting' : Setting)
        (draft : BotDraft) (bot : Bot),
        (∀ step ∈ history publisher.watched run.2 requests, ¬ step.Creates id) → draft.id = id →
        let later := carryOutAll publisher.watched run.2 requests
        let made :=
          exec ((inMemory publisher.watched layout').handle setting' (.createBot draft)) later
        made.1 = .ok (.bot bot) →
          made.2.1.bots.get? id = some bot ∧
          (∀ user, made.2.1.participants.get? ⟨id, user⟩ = none) ∧
          exec ((inMemory publisher.watched layout'').ask (.answers id bot.owner)) made.2 =
            (.ok (.answers (.build bot.script [])), made.2)) := by
  intro run after attempts
  have heffect : Effect publisher.watched setting m (w, []) c run.1 run.2 :=
    handle_effect publisher.watched layout setting m (w, []) c
  refine ⟨heffect.outside hc, ?_, heffect.participants_eq, ?_, ?_⟩
  · exact heffect.isOf hc fun a ha => absurd ha List.not_mem_nil
  · intro address haddress
    obtain ⟨hbots, hothers⟩ := heffect.others_eq haddress
    refine ⟨hbots, hothers, ?_⟩
    intro reply hreply
    rw [hreply] at heffect
    exact heffect.attempts_eq haddress
  · intro owner reply hdelete hreply
    rw [hdelete, hreply] at heffect
    obtain ⟨hstored, hafter⟩ := heffect.deleted
    have hvacant : after.Vacant id := by
      show run.2.1.Vacant id
      rw [hafter]
      exact .dropBot id m
    refine ⟨hstored, hvacant, ?_⟩
    intro requests layout' layout'' setting' draft bot hcreates hid later made hmade
    subst hid
    exact made_afresh publisher.watched setting'
      (vacant_carryOutAll requests hvacant hcreates) hmade

/-- Two bots with a user each. A user enters at one of them, and the other bot hears nothing of
it; then the one is deleted, and is empty when it is made again. -/
theorem command_confined_again :
    let blocks : List Block := [⟨1, 2, "Hi", "Hello", .message⟩,
      ⟨2, 0, "Name", "Who are you?", .question⟩]
    let script : Script := .restore [⟨"start", 1⟩] blocks
    let mine : Bot := ⟨⟨1⟩, 5, "Shop", "token", .started, script, [], ⟨0⟩, ⟨0⟩⟩
    let theirs : Bot := ⟨⟨2⟩, 6, "Club", "club", .started, script, [], ⟨0⟩, ⟨0⟩⟩
    let m : Memory := ⟨.ofList [mine, theirs],
      .ofList [.restore ⟨⟨1⟩, 8⟩ 2 [], .restore ⟨⟨2⟩, 8⟩ 2 []]⟩
    let setting : Setting := ⟨⟨10⟩, .reject⟩
    let engine := inMemory Recorder.publish.watched .flat
    let entered := exec (engine.handle setting (.enter ⟨⟨1⟩, 7⟩ "start")) (m, ({}, []))
    let deleted := exec (engine.handle setting (.deleteBot ⟨1⟩ 5)) (m, ({}, []))
    let later := carryOutAll Recorder.publish.watched deleted.2
      [⟨.flat, setting, .enter ⟨⟨1⟩, 8⟩ "start"⟩, ⟨.flat, setting, .process ⟨⟨2⟩, 8⟩ "Ann"⟩]
    let made := exec (engine.handle setting
      (.createBot ⟨⟨1⟩, 5, "Shop", "token", [⟨"start", 1⟩], blocks⟩)) later
    m.AgreeOutside ⟨1⟩ entered.2.1 ∧
      entered.1 = .ok (.messages [⟨"Hello", []⟩, ⟨"Who are you?", []⟩]) ∧
      entered.2.2.2 = [⟨addressed ⟨⟨1⟩, 7⟩ [⟨"Hello", []⟩, ⟨"Who are you?", []⟩], .ok ()⟩] ∧
      deleted.2.1.Vacant ⟨1⟩ ∧ made.2.1.bots.get? ⟨1⟩ = some { mine with
        status := .stopped, createdAt := ⟨10⟩, updatedAt := ⟨10⟩ } ∧
      exec (engine.ask (.answers ⟨1⟩ 5)) made.2 = (.ok (.answers (.build script [])), made.2) := by
  intro blocks script mine theirs m setting engine entered deleted later made
  have henter : entered.1 = .ok (.messages [⟨"Hello", []⟩, ⟨"Who are you?", []⟩]) := by
    decide +kernel
  have hdelete : deleted.1 = .ok .done := by decide +kernel
  have hmade : made.1 = .ok (.bot { mine with
      status := .stopped, createdAt := ⟨10⟩, updatedAt := ⟨10⟩ }) := by decide +kernel
  obtain ⟨houtside, _, _, hvisit, _⟩ :=
    command_confined Recorder.publish setting m {} (c := .enter ⟨⟨1⟩, 7⟩ "start") rfl
  obtain ⟨_, _, _, _, hdeleted⟩ :=
    command_confined Recorder.publish setting m {} (c := .deleteBot ⟨1⟩ 5) rfl
  obtain ⟨_, hvacant, hafresh⟩ := hdeleted 5 .done rfl hdelete
  have hcreates : ∀ step ∈ history Recorder.publish.watched deleted.2
      [⟨.flat, setting, .enter ⟨⟨1⟩, 8⟩ "start"⟩, ⟨.flat, setting, .process ⟨⟨2⟩, 8⟩ "Ann"⟩],
      ¬ step.Creates ⟨1⟩ := by
    simp [history, Step.Creates]
  obtain ⟨hbot, _, hanswers⟩ := hafresh _ .flat .flat setting _ _ hcreates rfl hmade
  exact ⟨houtside, henter, (hvisit ⟨⟨1⟩, 7⟩ rfl).2.2 _ henter, hvacant, hbot, hanswers⟩

end Engine

end ScriptedChat
