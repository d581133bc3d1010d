import ScriptedChat.Proofs.Database.Changes
import ScriptedChat.Proofs.Engine.Alike

/-!
Stores in memory and stores in a database carry out commands and queries alike. What is asked
with texts that a column takes and with a clock in whole microseconds only ever saves what rows
keep, so that every command but a resume agrees over the two, whatever the publisher does. A
resume hands over its batch in another order, and a list gives bots of one age as the map of the
bots is laid out.
-/
namespace ScriptedChat

open ScriptedChat.Action

namespace Engine

variable {π α : Type} {publisher : Publisher π} {layout : Memory.Layout} {setting : Setting}

/-- The engine over stores in a database. -/
abbrev inDatabase (publisher : Publisher π) : Engine (Database × π) :=
  ofParts Database.stores publisher

/-- Whether a bot is stored is not changed by what leaves the bots alone. -/
theorem kept_agrees {id : Uuid} {x : Action Memory α} {y : Action Database α}
    (h : Agrees Mirrors x y) (hbots : ∀ m, (exec x m).2.bots = m.bots) :
    Agrees (MirrorsWith id) x y := by
  intro m db hmirrors
  obtain ⟨hsame, htied⟩ := h m db hmirrors.1
  refine ⟨hsame, htied, ?_⟩
  rw [hbots]
  exact hmirrors.2

/-- Every bot is served alike by stores that hold the same. -/
theorem stores_alike (layout : Memory.Layout) (id : Uuid) :
    (Memory.stores layout).Alike Database.stores Mirrors (MirrorsWith id) (fun _ => KeepsRows)
      id where
  weaken _ _ h := h.1
  getBot m db h := by
    have hread := h.exec_getBot id
    cases hbot : m.bots.get? id with
    | none =>
      rw [Memory.exec_getBot_none hbot] at hread
      exact Or.inl ⟨_, Memory.exec_getBot_none hbot, hread⟩
    | some bot =>
      have hstored : (m.bots.get? id).isSome := by rw [hbot]; rfl
      rw [Memory.exec_getBot_some hbot] at hread
      exact Or.inr
        ⟨bot, Table.key_of_get? hbot, Memory.exec_getBot_some hbot, hread, h, hstored⟩
  delete := delete_agrees id
  participantsOfBot := kept_agrees (participantsOfBot_agrees id) fun m => rfl
  updateParticipant user _ hchange := updateParticipant_agrees ⟨id, user⟩ hchange

theorem createBot_agrees {draft : BotDraft} (hname : Plain draft.name)
    (htoken : Plain draft.token)
    (htexts : ∀ s ∈ Script.texts draft.entries draft.blocks, Plain s)
    (hnow : setting.now.Whole) :
    Agrees (Paired Mirrors) ((inMemory publisher layout).createBot setting draft)
      ((inDatabase publisher).createBot setting draft) := by
  apply Agrees.bind_lift
  intro bot hbot
  have hstorable := Bot.create_storable hname htoken htexts hnow hbot
  apply Agrees.bind (Paired.stored (ScriptedChat.createBot_agrees hstorable))
  intro _
  exact Agrees.pure bot

theorem updateOwned_agrees (id : Uuid) (owner : UserId) {change : Bot → Except Error Bot}
    (hchange : KeepsRow change) :
    Agrees (Paired Mirrors)
      ((inMemory publisher layout).stores.updateBot id fun bot => do
        bot.ensureOwner owner
        change bot)
      ((inDatabase publisher).stores.updateBot id fun bot => do
        bot.ensureOwner owner
        change bot) :=
  Paired.stored (updateBot_agrees id (hchange.owned owner))

/-- Every command with plain texts but a resume agrees over the two stores. -/
theorem handle_agrees (hnow : setting.now.Whole) {c : Command} (htexts : ∀ s ∈ c.texts, Plain s)
    (hresume : c ≠ .resume) :
    Agrees (Paired Mirrors) ((inMemory publisher layout).handle setting c)
      ((inDatabase publisher).handle setting c) := by
  cases c with
  | createBot draft =>
    have hname := htexts draft.name (by simp [Command.texts])
    have htoken := htexts draft.token (by simp [Command.texts])
    have hscript : ∀ s ∈ Script.texts draft.entries draft.blocks, Plain s :=
      fun s hs => htexts s (by simp [Command.texts, hs])
    exact (createBot_agrees hname htoken hscript hnow).bind fun bot => Agrees.pure _
  | setScript id owner entries blocks =>
    have hkeeps : KeepsRow fun bot => bot.setScript entries blocks setting.cycles setting.now :=
      Bot.setScript_keepsRow htexts hnow
    exact (updateOwned_agrees id owner hkeeps).bind fun bot => Agrees.pure _
  | addMailing id owner mailing =>
    have hname := htexts mailing.name (by simp [Command.texts])
    have hkey := htexts mailing.entryKey (by simp [Command.texts])
    have hkeeps := Bot.addMailing_keepsRow hname hkey hnow
    exact (updateOwned_agrees id owner hkeeps).bind fun bot => Agrees.pure _
  | sendMailing id owner name =>
    have hsend := (stores_alike layout id).sendMailing_agrees publisher
      Participant.visit_keepsRows owner name
    exact hsend.bind fun n => Agrees.pure _
  | startBot id owner =>
    have hstart := (stores_alike layout id).startBot_agrees publisher
      (fun status => setStatus_agrees id status hnow) owner
    exact hstart.bind fun _ => Agrees.pure _
  | stopBot id owner =>
    have hstop := (stores_alike layout id).stopBot_agrees publisher
      (fun status => setStatus_agrees id status hnow) owner
    exact hstop.bind fun _ => Agrees.pure _
  | deleteBot id owner =>
    exact ((stores_alike layout id).deleteBot_agrees publisher owner).bind fun _ => Agrees.pure _
  | enter address key =>
    have henter := (stores_alike layout address.bot).enter_agrees publisher address.user
      fun script => Participant.enter_keepsRows script key
    exact henter.bind fun messages => Agrees.pure _
  | process address input =>
    have hinput := htexts input (by simp [Command.texts])
    have hprocess := (stores_alike layout address.bot).process_agrees publisher address.user
      fun script => Participant.reply_keepsRows script hinput
    exact hprocess.bind fun transition => Agrees.pure _
  | resume => exact absurd rfl hresume

theorem exec_ask_bots (publisher : Publisher π) (layout : Memory.Layout) (owner : UserId)
    (m : Memory) (w : π) :
    exec ((inMemory publisher layout).ask (.bots owner)) (m, w) =
      (.ok (.bots (m.ownedBy layout owner)), (m, w)) := rfl

theorem exec_ask_bots_database (publisher : Publisher π) (owner : UserId) {m : Memory}
    {db : Database} (h : Mirrors m db) (w : π) :
    exec ((inDatabase publisher).ask (.bots owner)) (db, w) =
      (.ok (.bots (m.ownedBy .flat owner)), (db, w)) := by
  have hlist : exec (Database.stores.botsOfOwner owner) db =
      (.ok (m.ownedBy .flat owner), db) := exec_botsOfOwner h owner
  simp [ask, exec_map, Stores.within, hlist, Except.map]

/-- Every query agrees over the two stores, but a list of bots only if all bots lie in one place of
the map. -/
theorem ask_agrees (q : Query) (hplace : (∃ owner, q = .bots owner) → layout = .flat) :
    Agrees (Paired Mirrors) ((inMemory publisher layout).ask q) ((inDatabase publisher).ask q) := by
  cases q with
  | bot id owner =>
    exact ((stores_alike layout id).ownedBot_agrees publisher owner).bind fun bot => Agrees.pure _
  | bots owner =>
    intro s t hst
    obtain ⟨m, w⟩ := s
    obtain ⟨db, w'⟩ := t
    rw [hplace ⟨owner, rfl⟩, exec_ask_bots, exec_ask_bots_database publisher owner hst.1]
    exact ⟨rfl, hst⟩
  | answers id owner =>
    exact ((stores_alike layout id).answers_agrees publisher owner).bind fun table => Agrees.pure _
  | participant address owner =>
    apply Agrees.bind
    · apply Agrees.bind ((stores_alike layout address.bot).ownedBot_agrees publisher owner)
      intro bot
      exact Paired.stored (getParticipant_agrees address)
    · intro p
      exact Agrees.pure _

end Engine

end ScriptedChat
