import ScriptedChat.Proofs.Database.Operations

/-!
A bot is for its owner only. The commands that administer a bot and the queries that read one name
an operator. Over all stores that hold the bot, whoever is not its owner is refused, before anything
else that the command or the query says is looked at and before anything is changed or published.
Nor can a bot be made under an identifier that is taken. Stores in memory hold a bot that is
stored there, and so does a database with a row from which the bot is read.
-/
namespace ScriptedChat

open ScriptedChat.Action

/-- The bot that a command administers, and the operator who asks for it. -/
def Command.target? : Command → Option (Uuid × UserId)
  | .setScript id operator _ _ | .addMailing id operator _ | .sendMailing id operator _
  | .startBot id operator | .stopBot id operator | .deleteBot id operator => some (id, operator)
  | .createBot _ | .enter _ _ | .process _ _ | .resume => none

/-- The bot that a query reads, and the operator who asks for it. -/
def Query.target? : Query → Option (Uuid × UserId)
  | .bot id operator | .answers id operator => some (id, operator)
  | .participant address operator => some (address.bot, operator)
  | .bots _ => none

/-- Stores that hold a bot under an identifier: it is found, a change that it refuses is not made,
and the identifier is taken. -/
structure Stores.Holds {σ : Type} (stores : Stores σ) (s : σ) (id : Uuid) (bot : Bot) : Prop where
  named : bot.id = id
  getBot : exec (stores.getBot id) s = (.ok bot, s)
  updateBot : ∀ change e, change bot = .error e →
    exec (stores.updateBot id change) s = (.error e, s)
  createBot : ∀ new, new.id = id → ∃ e, exec (stores.createBot new) s = (.error e, s)

namespace Stores.Holds

open Engine

variable {σ π : Type} {stores : Stores σ} {s : σ} {id : Uuid} {bot : Bot} {operator : UserId}
  {publisher : Publisher π} {setting : Setting} {w : π}

theorem ensureOwner_error (h : stores.Holds s id bot) (howner : operator ≠ bot.owner) :
    bot.ensureOwner operator = .error (.permissionDenied id) := by
  rw [Bot.ensureOwner, if_neg (Ne.symm howner), h.named]

theorem exec_ownedBot (h : stores.Holds s id bot) (howner : operator ≠ bot.owner) :
    exec ((ofParts stores publisher).ownedBot id operator) (s, w) =
      (.error (.permissionDenied id), (s, w)) := by
  have hget : exec ((ofParts stores publisher).stores.getBot id) (s, w) = (.ok bot, (s, w)) := by
    rw [ofParts_stores, Stores.within, exec_act, storePart_get, h.getBot, storePart_set]
  rw [ownedBot, exec_bind, hget]
  exact exec_bind_error (by rw [exec_lift, h.ensureOwner_error howner]) _

/-- Who is no owner is refused whatever the change is. -/
theorem exec_updateOwned (h : stores.Holds s id bot) (howner : operator ≠ bot.owner)
    (change : Bot → Except Error Bot) :
    exec ((ofParts stores publisher).stores.updateBot id fun bot => do
        bot.ensureOwner operator
        change bot) (s, w) =
      (.error (.permissionDenied id), (s, w)) := by
  have hdenied : (do bot.ensureOwner operator; change bot) = .error (.permissionDenied id) := by
    rw [h.ensureOwner_error howner]
    rfl
  rw [ofParts_stores, Stores.within, exec_act, storePart_get, h.updateBot _ _ hdenied,
    storePart_set]

/-- A command on a bot is refused to everyone but the owner. -/
theorem handle_denied (h : stores.Holds s id bot) (howner : operator ≠ bot.owner) {c : Command}
    (hc : c.target? = some (id, operator)) :
    exec ((ofParts stores publisher).handle setting c) (s, w) =
      (.error (.permissionDenied id), (s, w)) := by
  have hdenied : exec ((ofParts stores publisher).ownedBot id operator) (s, w) = _ :=
    h.exec_ownedBot howner
  cases c with
  | setScript =>
    cases hc
    exact exec_bind_error (h.exec_updateOwned howner _) _
  | addMailing =>
    cases hc
    exact exec_bind_error (h.exec_updateOwned howner _) _
  | sendMailing =>
    cases hc
    exact exec_bind_error (exec_bind_error hdenied _) _
  | startBot =>
    cases hc
    exact exec_bind_error (exec_bind_error hdenied _) _
  | stopBot =>
    cases hc
    exact exec_bind_error (exec_bind_error hdenied _) _
  | deleteBot =>
    cases hc
    exact exec_bind_error (exec_bind_error hdenied _) _
  | createBot | enter | process | resume => cases hc

/-- So is a query. -/
theorem ask_denied (h : stores.Holds s id bot) (howner : operator ≠ bot.owner) {q : Query}
    (hq : q.target? = some (id, operator)) :
    exec ((ofParts stores publisher).ask q) (s, w) =
      (.error (.permissionDenied id), (s, w)) := by
  have hdenied : exec ((ofParts stores publisher).ownedBot id operator) (s, w) = _ :=
    h.exec_ownedBot howner
  cases q with
  | bot =>
    cases hq
    exact exec_bind_error hdenied _
  | answers =>
    cases hq
    exact exec_bind_error (exec_bind_error hdenied _) _
  | participant =>
    cases hq
    exact exec_bind_error (exec_bind_error hdenied _) _
  | bots => cases hq

/-- Nobody makes a bot under the identifier of another. -/
theorem createBot_denied (h : stores.Holds s id bot) {draft : BotDraft} (hid : draft.id = id) :
    ∃ e, exec ((ofParts stores publisher).handle setting (.createBot draft)) (s, w) =
      (.error e, (s, w)) := by
  cases hnew : Bot.create draft setting.cycles setting.now with
  | error e =>
    refine ⟨e, exec_bind_error (exec_bind_error ?_ _) _⟩
    rw [exec_lift, hnew]
  | ok new =>
    have hnewId : new.id = draft.id := by
      obtain ⟨_, _, _, _, rfl⟩ := Bot.create_ok_iff.1 hnew
      rfl
    obtain ⟨e, he⟩ := h.createBot new (hnewId.trans hid)
    refine ⟨e, exec_bind_error ?_ _⟩
    rw [Engine.createBot, exec_bind, exec_lift, hnew]
    refine exec_bind_error ?_ _
    rw [ofParts_stores, Stores.within, exec_act, storePart_get, he, storePart_set]

end Stores.Holds

theorem Memory.holds (layout : Memory.Layout) {m : Memory} {id : Uuid} {bot : Bot}
    (h : m.bots.get? id = some bot) : (Memory.stores layout).Holds m id bot where
  named := Table.key_of_get? h
  getBot := Memory.exec_getBot_some h
  updateBot change e he := by
    show exec (Memory.updateBot id change) m = _
    rw [Memory.exec_updateBot h, he]
  createBot new hid := by
    refine ⟨.botAlreadyExists new.id, ?_⟩
    show exec (Memory.createBot new) m = _
    rw [Memory.exec_createBot, Table.contains, hid, h]
    rfl

theorem BotRow.id_of_toBot {row : BotRow} {bot : Bot} (h : row.toBot = .ok bot) :
    bot.id = row.id := by
  unfold toBot at h
  split at h
  · cases h
  · obtain ⟨status, _, heq⟩ := Outcome.bind_ok_iff.1 h
    cases heq
    rfl

namespace Database

variable {db : Database}

/-- An identifier that is taken is not inserted again, whatever the parameters are. -/
theorem exec_createBot_taken (h : db.Quiet) {bot : Bot} (htaken : db.bots.contains bot.id = true) :
    ∃ e, exec (createBot bot) db = (.error e, db) := by
  have hrow : db.bots.contains (BotRow.ofBot bot).id = true := htaken
  cases hfault : (BotRow.ofBot bot).parameters.findSome? Parameter.fault? with
  | some fault =>
    refine ⟨storeError fault, ?_⟩
    simp [createBot, insertBot, Sql.execute, exec_bind, exec_query, hfault]
  | none =>
    refine ⟨.botAlreadyExists bot.id, ?_⟩
    simp [createBot, exec_bind, exec_query, exec_insertBot h hfault, hrow]

/-- A database holds a bot that is read from its row. -/
theorem holds (h : db.Quiet) {id : Uuid} {row : BotRow} {bot : Bot}
    (hrow : db.bots.get? id = some row) (hbot : row.toBot = .ok bot) :
    Database.stores.Holds db id bot := by
  have hread : readBot id (db.bots.get? id) = .ok bot := by rw [hrow, readBot, hbot]
  refine ⟨?_, ?_, ?_, ?_⟩
  · rw [BotRow.id_of_toBot hbot]
    exact Table.key_of_get? hrow
  · show exec (getBot id) db = _
    simp [getBot, exec_bind, exec_query, exec_selectBot h, hread]
  · intro change e he
    have hbody : exec (changeBot id change) db = (.error e, db) := by
      simp [changeBot, exec_bind, exec_query, exec_selectBot h, hread, he]
    show exec (updateBot id change) db = _
    rw [updateBot_eq, exec_transaction_error h hbody rfl]
  · intro new hnew
    apply exec_createBot_taken h
    rw [hnew, Table.contains, hrow]
    rfl

end Database

end ScriptedChat
