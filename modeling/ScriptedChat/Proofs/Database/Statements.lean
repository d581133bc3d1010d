import ScriptedChat.Proofs.Actions
import ScriptedChat.Proofs.Database.Rows

/-!
What statements do on a database that is not told to fail, given parameters that its columns
take. A transaction keeps what its statements did when they all succeed; when one fails, the
tables are what they were before.
-/
namespace ScriptedChat.Database

open ScriptedChat.Action

variable {db : Database}

/-- A database that is not told to fail any statement. -/
def Quiet (db : Database) : Prop := db.failing = []

theorem exec_execute (h : db.Quiet) {parameters : List Parameter}
    (hparameters : parameters.findSome? Parameter.fault? = none) (statement : String) :
    exec (Sql.execute statement parameters) db = (.ok (), db) := by
  have hfailing : db.failing = [] := h
  simp [Sql.execute, hparameters, exec_bind, hfailing]

/-- A statement without texts among its parameters. -/
theorem exec_execute_nil (h : db.Quiet) (statement : String) :
    exec (Sql.execute statement) db = (.ok (), db) :=
  exec_execute h rfl statement

theorem exec_query {α : Type} (statements : Sql α) :
    exec (query statements) db =
      ((exec statements db).1.mapError storeError, (exec statements db).2) := rfl

section Transactions
variable {ε α : Type} {onFault : DatabaseFault → ε} {body : ExceptT ε (StateM Database) α}

theorem exec_transaction_ok (h : db.Quiet) {a : α} {db' : Database}
    (hbody : exec body db = (.ok a, db')) (h' : db'.Quiet) :
    exec (Sql.transaction onFault body) db = (.ok a, db') := by
  simp [Sql.transaction, exec_bind, exec_tryCatch, exec_adapt, exec_execute_nil h, hbody,
    exec_execute_nil h']

theorem exec_transaction_error (h : db.Quiet) {e : ε} {db' : Database}
    (hbody : exec body db = (.error e, db')) (hnext : db'.nextMessage = db.nextMessage) :
    exec (Sql.transaction onFault body) db = (.error e, db) := by
  simp [Sql.transaction, exec_bind, exec_tryCatch, exec_adapt, exec_execute_nil h, hbody, hnext]

end Transactions

theorem exec_insertBot (h : db.Quiet) {row : BotRow}
    (hparameters : row.parameters.findSome? Parameter.fault? = none) :
    exec (insertBot row) db =
      if db.bots.contains row.id then (.ok false, db)
      else (.ok true, { db with bots := db.bots.insert row }) := by
  cases hcontains : db.bots.contains row.id <;>
    simp [insertBot, exec_bind, exec_execute h hparameters, hcontains, exec_map, Except.map]

theorem exec_selectBot (h : db.Quiet) (id : Uuid) (lock : String) :
    exec (selectBot id lock) db = (.ok (db.bots.get? id), db) := by
  simp [selectBot, selectBots, exec_bind, exec_execute_nil h, exec_map, Except.map]

theorem exec_selectBotsWhere (h : db.Quiet) (condition : String) (p : BotRow → Bool) :
    exec (selectBotsWhere condition p) db =
      (.ok ((db.bots.rows.filter p).mergeSort fun a b => a.createdAt.le b.createdAt), db) := by
  simp [selectBotsWhere, selectBots, exec_bind, exec_execute_nil h, exec_map, Except.map]

theorem exec_saveBot (h : db.Quiet) {row old : BotRow}
    (hparameters : row.parameters.findSome? Parameter.fault? = none)
    (hold : db.bots.get? row.id = some old) :
    exec (saveBot row) db = (.ok (), { db with
      bots := db.bots.insert { row with owner := old.owner, createdAt := old.createdAt } }) := by
  simp [saveBot, exec_bind, exec_execute h hparameters, hold]

theorem exec_updateStatus_none (h : db.Quiet) {id : Uuid} (hnone : db.bots.get? id = none)
    (status : BotStatus) (now : Time) :
    exec (updateStatus id status now) db = (.ok false, db) := by
  simp [updateStatus, exec_bind, exec_execute_nil h, hnone]

theorem exec_updateStatus_some (h : db.Quiet) {id : Uuid} {row : BotRow}
    (hrow : db.bots.get? id = some row) (status : BotStatus) (now : Time) :
    exec (updateStatus id status now) db = (.ok true, { db with
      bots := db.bots.insert { row with status := status.name, updatedAt := now.toMicros } }) := by
  simp [updateStatus, exec_bind, exec_execute_nil h, hrow, exec_map, Except.map]

theorem exec_removeBot (h : db.Quiet) (id : Uuid) :
    exec (removeBot id) db =
      if db.bots.contains id then
        (.ok true, { db.dropParticipants id with bots := db.bots.erase id })
      else (.ok false, db) := by
  cases hcontains : db.bots.contains id <;>
    simp [removeBot, exec_bind, exec_execute_nil h, hcontains, exec_map, Except.map]

/-- A participant of a stored bot is there after it was inserted. -/
theorem exec_insertParticipant (h : db.Quiet) {address : Address}
    (hbot : db.bots.contains address.bot = true) :
    exec (insertParticipant address) db =
      (.ok (), if db.participants.contains address then db
        else { db with participants := db.participants.insert ⟨address, 0⟩ }) := by
  cases hcontains : db.participants.contains address <;>
    simp [insertParticipant, exec_bind, exec_execute_nil h, hcontains, hbot]

theorem exec_selectParticipant (h : db.Quiet) (address : Address) (lock : String) :
    exec (selectParticipant address lock) db = (.ok (db.participants.get? address), db) := by
  simp [selectParticipant, exec_bind, exec_execute_nil h, exec_map, Except.map]

theorem exec_selectAnswers (h : db.Quiet) (address : Address) :
    exec (selectAnswers address) db =
      (.ok (db.answers.rows.filter fun r => r.key.address = address), db) := by
  simp [selectAnswers, exec_bind, exec_execute_nil h, exec_map, Except.map]

theorem exec_selectParticipants (h : db.Quiet) (bot : Uuid) :
    exec (selectParticipants bot) db =
      (.ok (db.participants.rows.filter fun r => r.address.bot = bot), db) := by
  simp [selectParticipants, exec_bind, exec_execute_nil h, exec_map, Except.map]

theorem exec_selectAnswersOfBot (h : db.Quiet) (bot : Uuid) :
    exec (selectAnswersOfBot bot) db =
      (.ok (db.answers.rows.filter fun r => r.key.address.bot = bot), db) := by
  simp [selectAnswersOfBot, exec_bind, exec_execute_nil h, exec_map, Except.map]

theorem exec_removeParticipants (h : db.Quiet) (bot : Uuid) :
    exec (removeParticipants bot) db = (.ok (), db.dropParticipants bot) := by
  simp [removeParticipants, exec_bind, exec_execute_nil h]

theorem exec_insertAnswer (h : db.Quiet) {address : Address} {a : Answer} (hplain : Plain a.text)
    (hfree : ∀ x ∈ db.answers.rows, x.key ≠ (AnswerRow.ofAnswer address a).key)
    (hrow : db.participants.contains address = true) :
    exec (insertAnswer address a) db =
      (.ok (), { db with answers := db.answers.insert (.ofAnswer address a) }) := by
  have hnul : hasNul a.text = false := hplain
  have hparameters : [Parameter.text a.text].findSome? Parameter.fault? = none := by
    simp [Parameter.fault?, hnul]
  have hcontains : db.answers.contains ⟨address, a.state.toNat⟩ = false :=
    Table.contains_eq_false_iff.2 hfree
  simp [insertAnswer, exec_bind, exec_execute h hparameters, hcontains, hrow, AnswerRow.ofAnswer]

/-- Answers of a stored participant are inserted where their keys are free and all different. -/
theorem exec_insertAnswers (address : Address) {answers : List Answer}
    (hplain : ∀ a ∈ answers, Plain a.text)
    (hkeys : ((answers.map (AnswerRow.ofAnswer address)).map AnswerRow.key).Nodup)
    (db : Database) (h : db.Quiet)
    (hfree : ∀ r ∈ answers.map (AnswerRow.ofAnswer address), ∀ x ∈ db.answers.rows,
      x.key ≠ r.key) (hrow : db.participants.contains address = true) :
    exec (answers.forM (insertAnswer address)) db =
      (.ok (), { db with
        answers := (answers.map (AnswerRow.ofAnswer address)).foldl Table.insert db.answers }) := by
  induction answers generalizing db with
  | nil => rfl
  | cons a rest ih =>
    rw [List.map_cons, List.map_cons, List.nodup_cons] at hkeys
    have hfirst := exec_insertAnswer h (hplain a List.mem_cons_self)
      (hfree _ List.mem_cons_self) hrow
    have hrest : ∀ r ∈ rest.map (AnswerRow.ofAnswer address),
        ∀ x ∈ (db.answers.insert (.ofAnswer address a)).rows, x.key ≠ r.key := by
      intro r hr x hx
      rcases Table.mem_insert.1 hx with rfl | ⟨hx, _⟩
      · intro hkey
        exact hkeys.1 (hkey ▸ List.mem_map_of_mem hr)
      · exact hfree r (List.mem_cons_of_mem _ hr) x hx
    show exec (insertAnswer address a >>= fun _ => rest.forM (insertAnswer address)) db = _
    rw [exec_bind, hfirst]
    exact ih (fun b hb => hplain b (List.mem_cons_of_mem _ hb)) hkeys.2 _ h hrest hrow

/-- The database with a participant in the place of the one at its address. -/
def withParticipant (db : Database) (p : Participant) : Database :=
  { db with
    participants := db.participants.insert (.ofParticipant p)
    answers := p.answerRows.foldl Table.insert
      (db.answers.filter fun r => r.key.address ≠ p.address) }

/-- Saving a stored participant writes its row and puts its answers in the place of the old ones,
none of which is in their way. -/
theorem exec_saveParticipant (h : db.Quiet) {p : Participant}
    (hplain : ∀ a ∈ p.answers.rows, Plain a.text)
    (hrow : db.participants.contains p.address = true) :
    exec (saveParticipant p) db = (.ok (), db.withParticipant p) := by
  let moved : Database := { db with participants := db.participants.insert (.ofParticipant p) }
  have hmoved : moved.Quiet := h
  have hstate : exec (updateParticipantState p.address p.state) db = (.ok (), moved) := by
    simp only [updateParticipantState, exec_bind, exec_execute_nil h, exec_modify, hrow, if_true,
      moved, ParticipantRow.ofParticipant]
  have hremove : exec (removeAnswers p.address) moved = (.ok (), { moved with
      answers := db.answers.filter fun r => r.key.address ≠ p.address }) := by
    simp only [removeAnswers, exec_bind, exec_execute_nil hmoved, exec_modify, moved]
  have hstored : moved.participants.contains p.address = true := by
    show ((db.participants.insert (.ofParticipant p)).get?
      (ParticipantRow.ofParticipant p).address).isSome = true
    rw [Table.get?_insert_self]
    rfl
  simp only [saveParticipant, exec_bind, hstate, hremove]
  exact exec_insertAnswers p.address hplain p.answerRows_nodup _ h (p.answerRows_free db.answers)
    hstored

end ScriptedChat.Database
