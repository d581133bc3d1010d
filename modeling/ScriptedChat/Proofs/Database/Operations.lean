import ScriptedChat.Proofs.Agreement
import ScriptedChat.Proofs.Database.Mirror

/-!
Each operation of the stores in memory agrees with the same operation of the stores in a
database, as long as what is saved can be written as rows. A participant is updated only when
its bot is stored, and a bot is deleted together with its participants; so these two are said
of what the engine does and not of single statements.
-/
namespace ScriptedChat

open ScriptedChat.Action Database

variable {m : Memory} {db : Database}

namespace Mirrors

theorem readBot_eq (h : Mirrors m db) {id : Uuid} {bot : Bot}
    (hbot : m.bots.get? id = some bot) : readBot id (db.bots.get? id) = .ok bot := by
  rw [h.bots, hbot]
  exact BotRow.toBot_ofBot (h.storable_of_get? hbot)

theorem readBot_none (h : Mirrors m db) {id : Uuid} (hbot : m.bots.get? id = none) :
    readBot id (db.bots.get? id) = .error (.botNotFound id) := by
  rw [h.bots, hbot]
  rfl

end Mirrors

/-- Reading a bot leaves everything as it is. -/
theorem Mirrors.exec_getBot (h : Mirrors m db) (id : Uuid) :
    exec (Database.getBot id) db = ((exec (Memory.getBot id) m).1, db) := by
  cases hbot : m.bots.get? id with
  | none =>
    rw [Memory.exec_getBot_none hbot]
    simp [Database.getBot, exec_bind, exec_query, exec_selectBot h.quiet, h.readBot_none hbot]
  | some bot =>
    rw [Memory.exec_getBot_some hbot]
    simp [Database.getBot, exec_bind, exec_query, exec_selectBot h.quiet, h.readBot_eq hbot]

theorem createBot_agrees {bot : Bot} (hbot : bot.Storable) :
    Agrees Mirrors (Memory.createBot bot) (Database.createBot bot) := by
  intro m db h
  have hid : (BotRow.ofBot bot).id = bot.id := rfl
  rw [Memory.exec_createBot]
  cases hcontains : m.bots.contains bot.id with
  | true =>
    simp [Database.createBot, exec_bind, exec_query,
      exec_insertBot h.quiet (BotRow.parameters_ofBot hbot), hid, h.contains_bot, hcontains, h]
  | false =>
    simp [Database.createBot, exec_bind, exec_query,
      exec_insertBot h.quiet (BotRow.parameters_ofBot hbot), hid, h.contains_bot, hcontains,
      h.saveBot hbot]

/-- Changes of a bot that keep what a row keeps. -/
def KeepsRow (change : Bot → Except Error Bot) : Prop :=
  ∀ bot changed, bot.Storable → change bot = .ok changed →
    changed.Storable ∧ changed.id = bot.id ∧ changed.owner = bot.owner ∧
      changed.createdAt = bot.createdAt

/-- The statements of an update. -/
def changeBot (id : Uuid) (change : Bot → Except Error Bot) : Action Database Bot := do
  let bot ← readBot id (← query (selectBot id " FOR UPDATE"))
  let bot ← change bot
  query (Database.saveBot (.ofBot bot))
  return bot

theorem updateBot_eq (id : Uuid) (change : Bot → Except Error Bot) :
    Database.updateBot id change = Sql.transaction storeError (changeBot id change) := rfl

theorem updateBot_agrees (id : Uuid) {change : Bot → Except Error Bot}
    (hchange : KeepsRow change) :
    Agrees Mirrors (Memory.updateBot id change) (Database.updateBot id change) := by
  intro m db h
  cases hbot : m.bots.get? id with
  | none =>
    have hbody : exec (changeBot id change) db = (.error (.botNotFound id), db) := by
      simp [changeBot, exec_bind, exec_query, exec_selectBot h.quiet, h.readBot_none hbot]
    rw [updateBot_eq, exec_transaction_error h.quiet hbody rfl]
    simp [Memory.updateBot, exec_bind, Memory.exec_getBot_none hbot, h]
  | some bot =>
    rw [Memory.exec_updateBot hbot]
    cases hchanged : change bot with
    | error e =>
      have hbody : exec (changeBot id change) db = (.error e, db) := by
        simp [changeBot, exec_bind, exec_query, exec_selectBot h.quiet, h.readBot_eq hbot, hchanged]
      rw [updateBot_eq, exec_transaction_error h.quiet hbody rfl]
      exact ⟨rfl, h⟩
    | ok changed =>
      obtain ⟨hstorable, hid, howner, hcreated⟩ :=
        hchange bot changed (h.storable_of_get? hbot) hchanged
      have hbotid : bot.id = id := Table.key_of_get? hbot
      have hold : db.bots.get? (BotRow.ofBot changed).id = some (.ofBot bot) := by
        show db.bots.get? changed.id = _
        rw [hid, hbotid, h.bots, hbot]
        rfl
      have hsaved : ({ BotRow.ofBot changed with
          owner := (BotRow.ofBot bot).owner
          createdAt := (BotRow.ofBot bot).createdAt } : BotRow) = .ofBot changed := by
        simp [BotRow.ofBot, howner, hcreated]
      have hbody : exec (changeBot id change) db =
          (.ok changed, { db with bots := db.bots.insert (.ofBot changed) }) := by
        simp [changeBot, exec_bind, exec_query, exec_selectBot h.quiet, h.readBot_eq hbot, hchanged,
          exec_saveBot h.quiet (BotRow.parameters_ofBot hstorable) hold, hsaved, exec_map,
          Except.map]
      have h' := h.saveBot hstorable
      rw [updateBot_eq, exec_transaction_ok h.quiet hbody h'.quiet]
      exact ⟨rfl, h'⟩

theorem setStatus_agrees (id : Uuid) (status : BotStatus) {now : Time} (hnow : now.Whole) :
    Agrees Mirrors (Memory.setStatus id status now) (Database.setStatus id status now) := by
  intro m db h
  cases hbot : m.bots.get? id with
  | none =>
    have hrow : db.bots.get? id = none := by rw [h.bots, hbot]; rfl
    simp [Memory.setStatus, exec_bind, Memory.exec_getBot_none hbot, Database.setStatus, exec_query,
      exec_updateStatus_none h.quiet hrow, h]
  | some bot =>
    have hrow : db.bots.get? id = some (.ofBot bot) := by rw [h.bots, hbot]; rfl
    have hstored := h.storable_of_get? hbot
    have hchanged : (bot.setStatus status now).Storable :=
      ⟨hstored.name, hstored.token, hstored.document, hstored.created, hnow⟩
    have h' := h.saveBot hchanged
    rw [Memory.exec_setStatus hbot]
    simp [Database.setStatus, exec_bind, exec_query, exec_updateStatus_some h.quiet hrow]
    exact h'

/-- Bots are listed from their rows, oldest first. -/
theorem exec_botsWhere (h : Mirrors m db) (condition : String) (p : BotRow → Bool) :
    exec (do
      let rows ← query (selectBotsWhere condition p)
      rows.mapM fun row => row.toBot) db =
        (.ok ((m.bots.rows.filter fun bot => p (.ofBot bot)).mergeSort
          fun a b => a.createdAt.le b.createdAt), db) := by
  have hrows : db.bots.rows = m.bots.rows.map BotRow.ofBot :=
    Table.rows_eq_map (fun _ => rfl) h.bots
  have hsorted : (db.bots.rows.filter p).mergeSort (fun a b => a.createdAt.le b.createdAt) =
      ((m.bots.rows.filter fun bot => p (.ofBot bot)).mergeSort
        fun a b => a.createdAt.le b.createdAt).map BotRow.ofBot := by
    rw [hrows, List.filter_map]
    refine (List.map_mergeSort ?_).symm
    intro a ha b hb
    have hacreated := (h.storable a (List.mem_filter.1 ha).1).created.toMicros_eq
    have hbcreated := (h.storable b (List.mem_filter.1 hb).1).created.toMicros_eq
    simp only [BotRow.ofBot, hacreated, hbcreated]
  rw [exec_bind, exec_query, exec_selectBotsWhere h.quiet, hsorted]
  generalize hlist : (m.bots.rows.filter fun bot => p (.ofBot bot)).mergeSort
    (fun a b => a.createdAt.le b.createdAt) = bots
  have hread : ∀ bot ∈ bots,
      exec (liftM (BotRow.ofBot bot).toBot : Action Database Bot) db = (.ok (id bot), db) := by
    intro bot hbot
    rw [← hlist, List.mem_mergeSort] at hbot
    rw [exec_lift, BotRow.toBot_ofBot (h.storable bot (List.mem_filter.1 hbot).1)]
    rfl
  have hall := exec_mapM hread
  rw [List.map_id] at hall
  simp only [Outcome.mapError_ok, List.mapM_map]
  exact hall

/-- The bots of an operator are listed as a map lists them in which all bots lie in one place. -/
theorem exec_botsOfOwner (h : Mirrors m db) (owner : UserId) :
    exec (Database.botsOfOwner owner) db = (.ok (m.ownedBy .flat owner), db) := by
  have hexec := exec_botsWhere h "owner_id = $1" fun r => r.owner = owner
  rw [Database.botsOfOwner, hexec, Memory.ownedBy, Memory.Layout.arrange_flat]
  rfl

theorem BotStatus.name_injective {a b : BotStatus} (h : a.name = b.name) : a = b := by
  have hread := ofName_name a
  rw [h, ofName_name] at hread
  exact (Except.ok.inj hread).symm

/-- Bots of a status are listed in another order. -/
theorem botsWithStatus_perm (h : Mirrors m db) (layout : Memory.Layout) (status : BotStatus) :
    ∃ started started',
      exec (Memory.botsWithStatus layout status) m = (.ok started, m) ∧
      exec (Database.botsWithStatus status) db = (.ok started', db) ∧ started.Perm started' := by
  have hexec := exec_botsWhere h "status = $1" fun r => r.status = status.name
  refine ⟨_, _, rfl, hexec, ?_⟩
  have hfilter : (m.bots.rows.filter fun bot => bot.status = status) =
      m.bots.rows.filter fun bot => (BotRow.ofBot bot).status = status.name := by
    refine List.filter_congr fun bot _ => ?_
    exact decide_eq_decide.2 ⟨congrArg BotStatus.name, BotStatus.name_injective⟩
  rw [hfilter]
  exact (layout.arrange_perm _).trans (List.mergeSort_perm _ _).symm

/-- The stores with a bot that is stored. -/
def MirrorsWith (id : Uuid) (m : Memory) (db : Database) : Prop :=
  Mirrors m db ∧ (m.bots.get? id).isSome

/-- Changes of a participant that keep what its rows keep. -/
def KeepsRows {α : Type} (change : Participant → Except Error (α × Participant)) : Prop :=
  ∀ p outcome q, p.Storable → change p = .ok (outcome, q) →
    q.Storable ∧ q.address = p.address

theorem updateParticipant_agrees {α : Type} (address : Address)
    {change : Participant → Except Error (α × Participant)} (hchange : KeepsRows change) :
    Agrees (MirrorsWith address.bot) (Memory.updateParticipant address change)
      (Database.updateParticipant address change) := by
  intro m db h
  obtain ⟨h, hbot⟩ := h
  have hcontains : db.bots.contains address.bot = true := by
    rw [h.contains_bot, Table.contains, hbot]
  have hat : m.participantAt address = Participant.among m.participants address := rfl
  have hkeeps : ∀ outcome q, change (Participant.among m.participants address) =
      .ok (outcome, q) → q.Storable ∧ q.address = address := by
    intro outcome q hq
    obtain ⟨hstorable, haddress⟩ := hchange _ outcome q (h.among_storable address) hq
    exact ⟨hstorable, haddress.trans (m.participantAt_address address)⟩
  rw [Memory.exec_updateParticipant, hat, h.exec_updateParticipant h.quiet hcontains hkeeps]
  cases hchanged : change (Participant.among m.participants address) with
  | error e => exact ⟨rfl, h, hbot⟩
  | ok changed =>
    obtain ⟨outcome, q⟩ := changed
    obtain ⟨hstorable, rfl⟩ := hkeeps outcome q hchanged
    exact ⟨rfl, h.saveParticipant hstorable hcontains, hbot⟩

theorem getParticipant_agrees (address : Address) :
    Agrees Mirrors (Memory.getParticipant address) (Database.getParticipant address) := by
  intro m db h
  rw [h.exec_getParticipant h.quiet]
  cases hp : m.participants.get? address with
  | none => simp [Memory.getParticipant, exec_bind, hp, h]
  | some p => simp [Memory.getParticipant, exec_bind, hp, h]

theorem participantsOfBot_agrees (bot : Uuid) :
    Agrees Mirrors (Memory.participantsOfBot bot) (Database.participantsOfBot bot) := by
  intro m db h
  rw [h.exec_participantsOfBot h.quiet]
  exact ⟨rfl, h⟩

/-- A bot is deleted behind its participants. -/
theorem delete_agrees (id : Uuid) :
    Agrees Mirrors
      (do Memory.deleteParticipants id; Memory.deleteBot id)
      (do Database.deleteParticipants id; Database.deleteBot id) := by
  intro m db h
  have h' := h.dropParticipants id
  have hdrop : exec (Database.deleteParticipants id) db = (.ok (), db.dropParticipants id) := by
    rw [Database.deleteParticipants, exec_query, exec_removeParticipants h.quiet]
    rfl
  have hcontains : (db.dropParticipants id).bots.contains id = (m.bots.get? id).isSome :=
    h.contains_bot id
  simp only [exec_bind, Memory.exec_deleteParticipants, hdrop]
  cases hbot : m.bots.get? id with
  | none =>
    rw [hbot] at hcontains
    have hdb : exec (Database.deleteBot id) (db.dropParticipants id) =
        (.error (.botNotFound id), db.dropParticipants id) := by
      simp [Database.deleteBot, exec_bind, exec_query, exec_removeBot h'.quiet, hcontains]
    rw [Memory.exec_deleteBot_none hbot, hdb]
    exact ⟨rfl, h'⟩
  | some bot =>
    rw [hbot] at hcontains
    have hdb : exec (Database.deleteBot id) (db.dropParticipants id) =
        (.ok (), { (db.dropParticipants id).dropParticipants id with
          bots := (db.dropParticipants id).bots.erase id }) := by
      simp [Database.deleteBot, exec_bind, exec_query, exec_removeBot h'.quiet, hcontains]
    rw [Memory.exec_deleteBot hbot, hdb]
    have hdropped := h'.dropBot id
    rw [Memory.dropBot, Table.filter_self] at hdropped
    exact ⟨rfl, hdropped⟩

end ScriptedChat
