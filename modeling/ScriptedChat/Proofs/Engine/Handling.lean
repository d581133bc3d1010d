import ScriptedChat.Proofs.Bots
import ScriptedChat.Proofs.Engine.Effect

/-!
Every command has one of its effects. Each command is run step by step: an owned bot is found or
the command is refused, a publish succeeds or fails with the error of a publish, and all other
errors are refusals.
-/
namespace ScriptedChat.Engine

open ScriptedChat.Action

variable {π : Type} {publisher : Publisher π} {layout : Memory.Layout} {setting : Setting}
  {m : Memory} {w : π}

/-- The run of a command has one of the effects of the command. -/
def HasEffect (publisher : Publisher π) (layout : Memory.Layout) (setting : Setting) (m : Memory)
    (w : π) (c : Command) : Prop :=
  Effect publisher setting m w c (exec ((inMemory publisher layout).handle setting c) (m, w)).1
    (exec ((inMemory publisher layout).handle setting c) (m, w)).2

theorem HasEffect.of_exec {c : Command} {r : Except Error Reply} {world : Memory × π}
    (hrun : exec ((inMemory publisher layout).handle setting c) (m, w) = (r, world))
    (h : Effect publisher setting m w c r world) :
    HasEffect publisher layout setting m w c := by
  unfold HasEffect
  rw [hrun]
  exact h

theorem exec_ownedBot (publisher : Publisher π) {m : Memory} (w : π) {id : Uuid} {bot : Bot}
    (hbot : m.bots.get? id = some bot) :
    exec ((inMemory publisher layout).ownedBot id bot.owner) (m, w) = (.ok bot, (m, w)) := by
  simp [ownedBot, Stores.within, Memory.stores, exec_bind, exec_map,
    Memory.exec_getBot_some hbot, Bot.ensureOwner, Except.map]

/-- A bot is found for its owner; otherwise the command ends with a refusal. -/
theorem ownedBot_cases (publisher : Publisher π) (layout : Memory.Layout) (m : Memory) (w : π)
    (id : Uuid) (owner : UserId) :
    (∃ bot, m.bots.get? id = some bot ∧ bot.owner = owner ∧
      exec ((inMemory publisher layout).ownedBot id owner) (m, w) = (.ok bot, (m, w))) ∨
    ∃ e, Refusal e ∧
      exec ((inMemory publisher layout).ownedBot id owner) (m, w) = (.error e, (m, w)) := by
  cases hbot : m.bots.get? id with
  | none =>
    refine Or.inr ⟨.botNotFound id, trivial, ?_⟩
    simp [ownedBot, Stores.within, Memory.stores, exec_bind, Memory.exec_getBot_none hbot]
  | some bot =>
    by_cases howner : bot.owner = owner
    · subst howner
      exact Or.inl ⟨bot, rfl, rfl, exec_ownedBot publisher w hbot⟩
    · refine Or.inr ⟨.permissionDenied bot.id, trivial, ?_⟩
      simp [ownedBot, Stores.within, Memory.stores, exec_bind, exec_map,
        Memory.exec_getBot_some hbot, Bot.ensureOwner, howner, Except.map]

theorem createBot_effect (draft : BotDraft) :
    HasEffect publisher layout setting m w (.createBot draft) := by
  cases hbot : Bot.create draft setting.cycles setting.now with
  | error e =>
    refine HasEffect.of_exec ?_ (.refused _ e (Bot.create_refuses _ _ _ e hbot))
    simp [handle, createBot, exec_bind, hbot]
  | ok bot =>
    have hid : bot.id = draft.id := by
      obtain ⟨_, _, script, _, rfl⟩ := Bot.create_ok_iff.1 hbot
      rfl
    cases hfree : m.bots.get? draft.id with
    | none =>
      refine HasEffect.of_exec ?_ (.created draft bot hbot hfree)
      simp [handle, createBot, exec_bind, exec_map, hbot, Stores.within, Memory.stores,
        Memory.exec_createBot, Table.contains, hid, hfree, Except.map]
    | some old =>
      refine HasEffect.of_exec ?_ (.refused _ (.botAlreadyExists bot.id) trivial)
      simp [handle, createBot, exec_bind, exec_map, hbot, Stores.within, Memory.stores,
        Memory.exec_createBot, Table.contains, hid, hfree, Except.map]

/-- A bot is changed for its owner; otherwise the command ends with a refusal. -/
theorem updateOwned_cases (publisher : Publisher π) (layout : Memory.Layout) (m : Memory) (w : π)
    (id : Uuid) (owner : UserId) {change : Bot → Except Error Bot}
    (hrefuses : ∀ bot, Refuses (change bot)) :
    (∃ bot changed, m.bots.get? id = some bot ∧ bot.owner = owner ∧ change bot = .ok changed ∧
      exec ((inMemory publisher layout).stores.updateBot id fun bot => do
        bot.ensureOwner owner
        change bot) (m, w) = (.ok changed, (m.saveBot changed, w))) ∨
    ∃ e, Refusal e ∧ exec ((inMemory publisher layout).stores.updateBot id fun bot => do
        bot.ensureOwner owner
        change bot) (m, w) = (.error e, (m, w)) := by
  cases hbot : m.bots.get? id with
  | none =>
    refine Or.inr ⟨.botNotFound id, trivial, ?_⟩
    simp [Stores.within, Memory.stores, Memory.updateBot, exec_bind, Memory.exec_getBot_none hbot]
  | some bot =>
    by_cases howner : bot.owner = owner
    · cases hchange : change bot with
      | error e =>
        refine Or.inr ⟨e, hrefuses bot e hchange, ?_⟩
        simp [Stores.within, Memory.stores, Memory.exec_updateBot hbot, Bot.ensureOwner, howner,
          hchange]
      | ok changed =>
        refine Or.inl ⟨bot, changed, rfl, howner, hchange, ?_⟩
        simp [Stores.within, Memory.stores, Memory.exec_updateBot hbot, Bot.ensureOwner, howner,
          hchange]
    · refine Or.inr ⟨.permissionDenied bot.id, trivial, ?_⟩
      simp [Stores.within, Memory.stores, Memory.exec_updateBot hbot, Bot.ensureOwner, howner]

theorem setScript_effect (id : Uuid) (owner : UserId) (entries : List EntryPoint)
    (blocks : List Block) :
    HasEffect publisher layout setting m w (.setScript id owner entries blocks) := by
  rcases updateOwned_cases publisher layout m w id owner
    fun bot => bot.setScript_refuses entries blocks setting.cycles setting.now with
    ⟨bot, changed, hbot, howner, hchange, hexec⟩ | ⟨e, he, hexec⟩
  · refine HasEffect.of_exec ?_
      (.scriptSet id owner entries blocks bot changed hbot howner hchange)
    simp only [handle, setScript, exec_bind, hexec, exec_pure]
  · refine HasEffect.of_exec ?_ (.refused _ e he)
    simp only [handle, setScript, exec_bind, hexec]

theorem addMailing_effect (id : Uuid) (owner : UserId) (mailing : Mailing) :
    HasEffect publisher layout setting m w (.addMailing id owner mailing) := by
  rcases updateOwned_cases publisher layout m w id owner
    fun bot => bot.addMailing_refuses mailing setting.now with
    ⟨bot, changed, hbot, howner, hchange, hexec⟩ | ⟨e, he, hexec⟩
  · refine HasEffect.of_exec ?_ (.mailingAdded id owner mailing bot changed hbot howner hchange)
    simp only [handle, addMailing, exec_bind, hexec, exec_pure]
  · refine HasEffect.of_exec ?_ (.refused _ e he)
    simp only [handle, addMailing, exec_bind, hexec]

theorem startBot_effect (id : Uuid) (owner : UserId) :
    HasEffect publisher layout setting m w (.startBot id owner) := by
  rcases ownedBot_cases publisher layout m w id owner with
    ⟨bot, hbot, howner, hexec⟩ | ⟨e, he, hexec⟩
  · have hid : bot.id = id := Table.key_of_get? hbot
    rcases published_eq publisher [.lifecycle (.start id bot.token)] w with
      hpublish | ⟨reason, hpublish⟩
    · refine HasEffect.of_exec ?_ (.started id owner bot hbot howner hpublish)
      simp [handle, startBot, exec_bind, exec_map, exec_tryCatch, hexec, hid, exec_publish,
        hpublish, Stores.within, Memory.stores, Memory.exec_setStatus hbot, Except.map]
    · refine HasEffect.of_exec ?_ (.startFailed id owner bot reason hbot howner hpublish)
      simp [handle, startBot, exec_bind, exec_tryCatch, hexec, hid, exec_publish, hpublish,
        Stores.within, Memory.stores, Memory.exec_setStatus hbot]
  · refine HasEffect.of_exec ?_ (.refused _ e he)
    simp [handle, startBot, exec_bind, hexec]

theorem stopBot_effect (id : Uuid) (owner : UserId) :
    HasEffect publisher layout setting m w (.stopBot id owner) := by
  rcases ownedBot_cases publisher layout m w id owner with
    ⟨bot, hbot, howner, hexec⟩ | ⟨e, he, hexec⟩
  · have hid : bot.id = id := Table.key_of_get? hbot
    rcases published_eq publisher [.lifecycle (.stop id)] w with hpublish | ⟨reason, hpublish⟩
    · refine HasEffect.of_exec ?_ (.stopped id owner bot hbot howner hpublish)
      simp [handle, stopBot, exec_bind, exec_map, hexec, hid, exec_publish, hpublish,
        Stores.within, Memory.stores, Memory.exec_setStatus hbot, Except.map]
    · refine HasEffect.of_exec ?_ (.stopFailed id owner bot reason hbot howner hpublish)
      simp [handle, stopBot, exec_bind, hexec, hid, exec_publish, hpublish]
  · refine HasEffect.of_exec ?_ (.refused _ e he)
    simp [handle, stopBot, exec_bind, hexec]

theorem deleteBot_effect (id : Uuid) (owner : UserId) :
    HasEffect publisher layout setting m w (.deleteBot id owner) := by
  rcases ownedBot_cases publisher layout m w id owner with
    ⟨bot, hbot, howner, hexec⟩ | ⟨e, he, hexec⟩
  · have hid : bot.id = id := Table.key_of_get? hbot
    by_cases hstatus : bot.status = .started
    · rcases published_eq publisher [.lifecycle (.stop id)] w with hpublish | ⟨reason, hpublish⟩
      · refine HasEffect.of_exec ?_ (.deletedRunning id owner bot hbot howner hstatus hpublish)
        simp [handle, deleteBot, exec_bind, exec_map, hexec, hid, hstatus, exec_publish, hpublish,
          Stores.within, Memory.stores, Memory.exec_deleteParticipants,
          Memory.exec_deleteBot hbot, Memory.dropBot, Except.map]
      · refine HasEffect.of_exec ?_ (.deleteFailed id owner bot reason hbot howner hstatus hpublish)
        simp [handle, deleteBot, exec_bind, hexec, hid, hstatus, exec_publish, hpublish]
    · refine HasEffect.of_exec ?_ (.deletedIdle id owner bot hbot howner hstatus)
      simp [handle, deleteBot, exec_bind, exec_map, hexec, hid, hstatus, Stores.within,
        Memory.stores, Memory.exec_deleteParticipants, Memory.exec_deleteBot hbot,
        Memory.dropBot, Except.map]
  · refine HasEffect.of_exec ?_ (.refused _ e he)
    simp [handle, deleteBot, exec_bind, hexec]

theorem exec_publishMessages (publisher : Publisher π) (address : Address)
    (messages : List Message) (m : Memory) (w : π) :
    exec ((inMemory publisher layout).publishMessages address messages) (m, w) =
      ((announce publisher address messages w).1,
        (m, (announce publisher address messages w).2)) := by
  unfold publishMessages announce
  split
  · rfl
  · rfl

/-- An entry that succeeds is saved before its messages are published. -/
theorem exec_enter (publisher : Publisher π) (setting : Setting) (w : π) {address : Address}
    {key : String} {bot : Bot} {messages : List Message} {q : Participant}
    (hbot : m.bots.get? address.bot = some bot)
    (henter : (m.participantAt address).enter bot.script key = .ok (messages, q)) :
    exec ((inMemory publisher layout).handle setting (.enter address key)) (m, w) =
      ((announce publisher address messages w).1.map fun _ => .messages messages,
        (m.saveParticipant q, (announce publisher address messages w).2)) := by
  simp [handle, enter, exec_bind, exec_map, Stores.within, Memory.stores,
    Memory.exec_getBot_some hbot, Memory.exec_updateParticipant, henter, exec_publishMessages]

/-- An entry that fails changes nothing. -/
theorem exec_enter_error (publisher : Publisher π) (setting : Setting) (w : π) {address : Address}
    {key : String} {bot : Bot} {e : Error} (hbot : m.bots.get? address.bot = some bot)
    (henter : (m.participantAt address).enter bot.script key = .error e) :
    exec ((inMemory publisher layout).handle setting (.enter address key)) (m, w) =
      (.error e, (m, w)) := by
  simp [handle, enter, exec_bind, Stores.within, Memory.stores, Memory.exec_getBot_some hbot,
    Memory.exec_updateParticipant, henter]

theorem enter_effect (address : Address) (key : String) :
    HasEffect publisher layout setting m w (.enter address key) := by
  cases hbot : m.bots.get? address.bot with
  | none =>
    refine HasEffect.of_exec ?_ (.refused _ (.botNotFound address.bot) trivial)
    simp [handle, enter, exec_bind, Stores.within, Memory.stores, Memory.exec_getBot_none hbot]
  | some bot =>
    cases henter : (m.participantAt address).enter bot.script key with
    | error e =>
      exact HasEffect.of_exec (exec_enter_error publisher setting w hbot henter)
        (.refused _ e (Participant.enter_refuses _ _ _ e henter))
    | ok outcome =>
      obtain ⟨messages, q⟩ := outcome
      exact HasEffect.of_exec (exec_enter publisher setting w hbot henter)
        (.entered address key bot messages q hbot henter)

/-- An input that succeeds is saved, its answer recorded, before its messages are published. -/
theorem exec_process (publisher : Publisher π) (setting : Setting) (w : π) {address : Address}
    {input : String} {bot : Bot} {t : Transition} {q : Participant}
    (hbot : m.bots.get? address.bot = some bot)
    (hreply : (m.participantAt address).reply bot.script input = .ok (t, q)) :
    exec ((inMemory publisher layout).handle setting (.process address input)) (m, w) =
      ((announce publisher address t.messages w).1.map fun _ => .transition t,
        (m.saveParticipant q, (announce publisher address t.messages w).2)) := by
  simp [handle, process, exec_bind, exec_map, Stores.within, Memory.stores,
    Memory.exec_getBot_some hbot, Memory.exec_updateParticipant, hreply, exec_publishMessages]

/-- An input that fails changes nothing. -/
theorem exec_process_error (publisher : Publisher π) (setting : Setting) (w : π) {address : Address}
    {input : String} {bot : Bot} {e : Error} (hbot : m.bots.get? address.bot = some bot)
    (hreply : (m.participantAt address).reply bot.script input = .error e) :
    exec ((inMemory publisher layout).handle setting (.process address input)) (m, w) =
      (.error e, (m, w)) := by
  simp [handle, process, exec_bind, Stores.within, Memory.stores, Memory.exec_getBot_some hbot,
    Memory.exec_updateParticipant, hreply]

theorem process_effect (address : Address) (input : String) :
    HasEffect publisher layout setting m w (.process address input) := by
  cases hbot : m.bots.get? address.bot with
  | none =>
    refine HasEffect.of_exec ?_ (.refused _ (.botNotFound address.bot) trivial)
    simp [handle, process, exec_bind, Stores.within, Memory.stores, Memory.exec_getBot_none hbot]
  | some bot =>
    cases hreply : (m.participantAt address).reply bot.script input with
    | error e =>
      exact HasEffect.of_exec (exec_process_error publisher setting w hbot hreply)
        (.refused _ e (Participant.reply_refuses _ _ _ e hreply))
    | ok outcome =>
      obtain ⟨t, q⟩ := outcome
      exact HasEffect.of_exec (exec_process publisher setting w hbot hreply)
        (.processed address input bot t q hbot hreply)

theorem exec_reach (publisher : Publisher π) (bot : Bot) (mailing : Mailing) (user : UserId)
    (world : Memory × π) :
    exec ((inMemory publisher layout).reach bot mailing user) world =
      (.ok (mailUser publisher bot mailing world user).1,
        (mailUser publisher bot mailing world user).2) := by
  obtain ⟨m, w⟩ := world
  by_cases hwaits : (m.participantAt ⟨bot.id, user⟩).state = mailing.requiredState
  · cases henter : (m.participantAt ⟨bot.id, user⟩).enter bot.script mailing.entryKey with
    | error e =>
      simp [reach, enterIfParked, exec_tryCatch, exec_bind, Stores.within, Memory.stores,
        Memory.exec_updateParticipant, mailUser, hwaits, henter, Except.map]
    | ok outcome =>
      obtain ⟨messages, q⟩ := outcome
      simp [reach, enterIfParked, exec_tryCatch, exec_bind, Stores.within, Memory.stores,
        Memory.exec_updateParticipant, mailUser, hwaits, henter, Except.map,
        exec_publishMessages]
      cases (announce publisher ⟨bot.id, user⟩ messages w).1 <;> rfl
  · simp [reach, enterIfParked, exec_tryCatch, exec_bind, Stores.within, Memory.stores,
      Memory.exec_updateParticipant, mailUser, hwaits]

theorem exec_mailing (publisher : Publisher π) (bot : Bot) (mailing : Mailing)
    (parked : List Participant) (n : Nat) (world : Memory × π) :
    exec (parked.foldlM (fun n p => do
      return if ← (inMemory publisher layout).reach bot mailing p.address.user then n + 1
        else n) n)
        world =
      (.ok (mailAll publisher bot mailing (parked.map fun p => p.address.user) n world).1,
        (mailAll publisher bot mailing (parked.map fun p => p.address.user) n world).2) := by
  induction parked generalizing n world with
  | nil => rfl
  | cons p rest ih =>
    simp only [List.foldlM_cons, exec_bind, exec_reach, exec_pure, ih, List.map_cons, mailAll]

/-- A mailing of a bot that its owner sends goes to all who wait at its state. -/
theorem exec_sendMailing (publisher : Publisher π) (setting : Setting) (w : π) {id : Uuid}
    {bot : Bot} {name : String} {mailing : Mailing} (hbot : m.bots.get? id = some bot)
    (hmailing : bot.mailing? name = some mailing) :
    exec ((inMemory publisher layout).handle setting (.sendMailing id bot.owner name)) (m, w) =
      (.ok (.count (mailAll publisher bot mailing
        (audience m id mailing.requiredState) 0 (m, w)).1),
        (mailAll publisher bot mailing (audience m id mailing.requiredState) 0 (m, w)).2) := by
  have hid : bot.id = id := Table.key_of_get? hbot
  have hlist : exec ((inMemory publisher layout).stores.participantsOfBot id) (m, w) =
      (.ok (m.participants.rows.filter fun p => p.address.bot = id), (m, w)) := rfl
  simp only [handle, sendMailing, exec_bind, exec_ownedBot publisher w hbot, hmailing, hid, hlist,
    exec_mailing, exec_pure, audience]

theorem sendMailing_effect (id : Uuid) (owner : UserId) (name : String) :
    HasEffect publisher layout setting m w (.sendMailing id owner name) := by
  rcases ownedBot_cases publisher layout m w id owner with
    ⟨bot, hbot, howner, hexec⟩ | ⟨e, he, hexec⟩
  · cases hmailing : bot.mailing? name with
    | none =>
      refine HasEffect.of_exec ?_ (.refused _ (.mailingNotFound name) trivial)
      simp [handle, sendMailing, exec_bind, hexec, hmailing]
    | some mailing =>
      refine HasEffect.of_exec ?_ (.mailed id owner name bot mailing hbot howner hmailing)
      rw [← howner]
      exact exec_sendMailing publisher setting w hbot hmailing
  · refine HasEffect.of_exec ?_ (.refused _ e he)
    simp [handle, sendMailing, exec_bind, hexec]

theorem resume_effect : HasEffect publisher layout setting m w .resume := by
  have hlist := m.exec_botsWithStatus layout .started
  have hperm := layout.arrange_perm (m.bots.rows.filter fun bot => bot.status = .started)
  generalize layout.arrange (m.bots.rows.filter fun bot => bot.status = .started) = started
    at hlist hperm
  have hrun := exec_resume publisher setting hlist w
  by_cases hnone : started = []
  · rw [if_pos hnone] at hrun
    rw [hnone] at hperm
    exact HasEffect.of_exec hrun (.resumedNone (List.nil_perm.1 hperm))
  · rw [if_neg hnone] at hrun
    rcases published_eq publisher (starts started) w with hpublish | ⟨reason, hpublish⟩
    · rw [hpublish] at hrun
      exact HasEffect.of_exec hrun (.resumed started hperm hnone hpublish)
    · rw [hpublish] at hrun
      exact HasEffect.of_exec hrun (.resumeFailed started reason hperm hnone hpublish)

/-- Whatever is asked of the engine, the outcome is one of the effects of the command. -/
theorem handle_effect (publisher : Publisher π) (layout : Memory.Layout) (setting : Setting)
    (m : Memory) (w : π) (c : Command) :
    Effect publisher setting m w c (exec ((inMemory publisher layout).handle setting c) (m, w)).1
      (exec ((inMemory publisher layout).handle setting c) (m, w)).2 := by
  cases c with
  | createBot draft => exact createBot_effect draft
  | setScript id owner entries blocks => exact setScript_effect id owner entries blocks
  | addMailing id owner mailing => exact addMailing_effect id owner mailing
  | sendMailing id owner name => exact sendMailing_effect id owner name
  | startBot id owner => exact startBot_effect id owner
  | stopBot id owner => exact stopBot_effect id owner
  | deleteBot id owner => exact deleteBot_effect id owner
  | enter address key => exact enter_effect address key
  | process address input => exact process_effect address input
  | resume => exact resume_effect

end ScriptedChat.Engine
