import ScriptedChat.Proofs.Bots.Consistency
import ScriptedChat.Proofs.Database.Messages
import ScriptedChat.Proofs.Database.Operations

/-!
Storing and loading a bot loses nothing. What is written for a bot, when it is made or when it
is saved, is a row that is read back as that bot, whatever order its document comes back in;
only parts of microseconds would be lost. The statements may fail, but as soon as an operation
succeeds the database keeps the bot.
-/
namespace ScriptedChat

open ScriptedChat.Action

/-- Whether a row is read back as a bot, whatever order its document comes back in. -/
def BotRow.Keeps (row : BotRow) (bot : Bot) : Prop :=
  ∀ script, row.script.Rearranged script → { row with script := script }.toBot = .ok bot

/-- Whether a database keeps a bot under its identifier. -/
def Database.Keeps (db : Database) (bot : Bot) : Prop :=
  ∃ row, db.bots.get? bot.id = some row ∧ row.Keeps bot

namespace BotRow

theorem keeps_ofBot {bot : Bot} (hcreated : bot.createdAt.Whole) (hupdated : bot.updatedAt.Whole) :
    (ofBot bot).Keeps bot := by
  intro script hscript
  have hread := toBot_written bot bot.owner bot.createdAt.toMicros hscript
  rw [hupdated.toMicros_eq] at hread
  rw [hcreated.toMicros_eq] at hread
  simpa [ofBot, hcreated.toMicros_eq] using hread

/-- A row that was overwritten has its old owner and its old time of creation. -/
theorem keeps_saved {bot : Bot} {old : BotRow} (howner : old.owner = bot.owner)
    (hcreated : old.createdAt = bot.createdAt) (hupdated : bot.updatedAt.Whole) :
    Keeps { ofBot bot with owner := old.owner, createdAt := old.createdAt } bot := by
  intro script hscript
  have hread := toBot_written bot old.owner old.createdAt hscript
  rw [hupdated.toMicros_eq, howner, hcreated] at hread
  simpa [howner, hcreated] using hread

/-- A bot that is read has the columns of its row. -/
theorem toBot_columns {row : BotRow} {bot : Bot} (h : row.toBot = .ok bot) :
    bot.id = row.id ∧ bot.owner = row.owner ∧ bot.createdAt = row.createdAt := by
  unfold toBot at h
  split at h
  · cases h
  · obtain ⟨status, _, hbot⟩ := Outcome.bind_ok_iff.1 h
    cases hbot
    exact ⟨rfl, rfl, rfl⟩

end BotRow

namespace BotCall

/-- No call gives a bot another identifier, another owner or another time of creation. -/
theorem change_fixed {bot changed : Bot} {call : BotCall} (h : call.change bot = .ok changed) :
    changed.id = bot.id ∧ changed.owner = bot.owner ∧ changed.createdAt = bot.createdAt := by
  cases call with
  | setScript entries blocks cycles now =>
    obtain ⟨_, _, _, rfl⟩ := Bot.setScript_ok_iff.1 h
    exact ⟨rfl, rfl, rfl⟩
  | addMailing mailing now =>
    obtain ⟨_, _, _, rfl⟩ := Bot.addMailing_ok_iff.1 h
    exact ⟨rfl, rfl, rfl⟩
  | setStatus status now =>
    cases h
    exact ⟨rfl, rfl, rfl⟩
  | restore =>
    cases h
    exact ⟨rfl, rfl, rfl⟩

theorem performAll_fixed (calls : List BotCall) (bot : Bot) :
    (performAll calls bot).1.id = bot.id ∧ (performAll calls bot).1.owner = bot.owner ∧
      (performAll calls bot).1.createdAt = bot.createdAt := by
  induction calls generalizing bot with
  | nil => exact ⟨rfl, rfl, rfl⟩
  | cons call rest ih =>
    rw [performAll, exec_perform]
    cases hchange : call.change bot with
    | error e => exact ih bot
    | ok changed =>
      obtain ⟨hid, howner, hcreated⟩ := change_fixed hchange
      obtain ⟨hid', howner', hcreated'⟩ := ih changed
      exact ⟨hid'.trans hid, howner'.trans howner, hcreated'.trans hcreated⟩

theorem performAll_singleton {bot changed : Bot} {call : BotCall}
    (h : call.change bot = .ok changed) : (performAll [call] bot).1 = changed := by
  rw [performAll, exec_perform, h]
  rfl

end BotCall

namespace Database

variable {db db' : Database}

/-- A statement that succeeds has only looked at its parameters when its effect comes. -/
theorem execute_ok {statement : String} {parameters : List Parameter}
    (h : exec (Sql.execute statement parameters) db = (.ok (), db')) : db' = db := by
  rcases execute_cases statement parameters db with hok | ⟨fault, hfault⟩
  · rw [hok] at h
    exact (congrArg Prod.snd h).symm
  · rw [hfault] at h
    cases h

theorem query_ok {α : Type} {statements : Sql α} {a : α}
    (h : exec (query statements) db = (.ok a, db')) : exec statements db = (.ok a, db') := by
  rw [exec_query] at h
  obtain ⟨hfirst, hsecond⟩ := Prod.mk.inj h
  cases hstatements : (exec statements db).1 with
  | error fault =>
    rw [hstatements] at hfirst
    cases hfirst
  | ok b =>
    rw [hstatements] at hfirst
    cases hfirst
    exact Prod.ext hstatements hsecond

theorem insertBot_ok {row : BotRow} (h : exec (insertBot row) db = (.ok true, db')) :
    db'.bots = db.bots.insert row := by
  obtain ⟨_, between, hexecute, hinsert⟩ := exec_bind_ok h
  cases execute_ok hexecute
  rw [exec_bind, exec_get] at hinsert
  cases hcontains : db.bots.contains row.id with
  | true => simp [hcontains] at hinsert
  | false =>
    simp only [hcontains, Bool.false_eq_true, if_false, exec_bind, exec_modify, exec_pure]
      at hinsert
    cases hinsert
    rfl

/-- A bot that was created is in the row that was written for it. -/
theorem createBot_ok {bot : Bot} (h : exec (createBot bot) db = (.ok (), db')) :
    db'.bots = db.bots.insert (.ofBot bot) := by
  obtain ⟨inserted, between, hquery, hend⟩ := exec_bind_ok h
  cases inserted with
  | false => cases hend
  | true =>
    cases hend
    exact insertBot_ok (query_ok hquery)

theorem saveBot_ok {row old : BotRow} (hold : db.bots.get? row.id = some old)
    (h : exec (saveBot row) db = (.ok (), db')) :
    db'.bots = db.bots.insert { row with owner := old.owner, createdAt := old.createdAt } := by
  obtain ⟨_, between, hexecute, hsave⟩ := exec_bind_ok h
  cases execute_ok hexecute
  rw [exec_modify, hold] at hsave
  cases hsave
  rfl

theorem selectBot_ok {id : Uuid} {lock : String} {row : Option BotRow}
    (h : exec (selectBot id lock) db = (.ok row, db')) : row = db.bots.get? id ∧ db' = db := by
  obtain ⟨_, between, hexecute, hget⟩ := exec_bind_ok h
  cases execute_ok hexecute
  cases hget
  exact ⟨rfl, rfl⟩

/-- An update that succeeds has changed the bot that its row is read as, and saved it. -/
theorem updateBot_ok {id : Uuid} {change : Bot → Except Error Bot} {written : Bot}
    (h : exec (updateBot id change) db = (.ok written, db')) :
    ∃ row bot, db.bots.get? id = some row ∧ row.toBot = .ok bot ∧ change bot = .ok written ∧
      exec (saveBot (.ofBot written)) db = (.ok (), db') := by
  rw [updateBot_eq] at h
  rcases @transaction_cases _ _ storeError (changeBot id change) db with
    ⟨changed, db'', hbody, hrun⟩ | ⟨_, _, hrun, _⟩
  · rw [hrun] at h
    cases h
    obtain ⟨row?, db₁, hselect, hbody⟩ := exec_bind_ok hbody
    obtain ⟨rfl, rfl⟩ := selectBot_ok (query_ok hselect)
    obtain ⟨bot, db₂, hlift, hbody⟩ := exec_bind_ok hbody
    rw [exec_lift] at hlift
    obtain ⟨hread, rfl⟩ := Prod.mk.inj hlift
    obtain ⟨changed', db₃, hlift, hbody⟩ := exec_bind_ok hbody
    rw [exec_lift] at hlift
    obtain ⟨hchange, rfl⟩ := Prod.mk.inj hlift
    obtain ⟨_, db₄, hsave, hbody⟩ := exec_bind_ok hbody
    cases hbody
    cases hrow : db₁.bots.get? id with
    | none =>
      rw [hrow] at hread
      cases hread
    | some row =>
      rw [hrow] at hread
      exact ⟨row, bot, rfl, hread, hchange, query_ok hsave⟩
  · rw [hrun] at h
    cases h

/-- A bot that was created is kept. -/
theorem keeps_of_createBot {bot : Bot} (hcreated : bot.createdAt.Whole)
    (hupdated : bot.updatedAt.Whole) (h : exec (createBot bot) db = (.ok (), db')) :
    db'.Keeps bot := by
  refine ⟨.ofBot bot, ?_, BotRow.keeps_ofBot hcreated hupdated⟩
  rw [createBot_ok h]
  exact Table.get?_insert_self _ _

/-- A bot that was saved over a row with its owner and its time of creation is kept. -/
theorem keeps_of_saveBot {bot : Bot} {old : BotRow} (hold : db.bots.get? bot.id = some old)
    (howner : old.owner = bot.owner) (hcreated : old.createdAt = bot.createdAt)
    (hupdated : bot.updatedAt.Whole) (h : exec (saveBot (.ofBot bot)) db = (.ok (), db')) :
    db'.Keeps bot := by
  refine ⟨_, ?_, BotRow.keeps_saved howner hcreated hupdated⟩
  rw [saveBot_ok hold h]
  exact Table.get?_insert_self _ _

/-- A bot that was updated without touching its identifier, its owner and its time of creation
is kept. -/
theorem keeps_of_updateBot {id : Uuid} {change : Bot → Except Error Bot} {written : Bot}
    (hfixed : ∀ bot changed, change bot = .ok changed → changed.id = bot.id ∧
      changed.owner = bot.owner ∧ changed.createdAt = bot.createdAt)
    (h : exec (updateBot id change) db = (.ok written, db')) (hupdated : written.updatedAt.Whole) :
    db'.Keeps written := by
  obtain ⟨row, bot, hrow, hread, hchange, hsave⟩ := updateBot_ok h
  obtain ⟨hid, howner, hcreated⟩ := hfixed bot written hchange
  obtain ⟨hid', howner', hcreated'⟩ := BotRow.toBot_columns hread
  have hkey : row.id = id := Table.key_of_get? hrow
  have hold : db.bots.get? written.id = some row := by rw [hid, hid', hkey, hrow]
  exact keeps_of_saveBot hold (howner'.symm.trans howner.symm) (hcreated'.symm.trans hcreated.symm)
    hupdated hsave

/-- What is stored of a bot is loaded again. A document is read as what it was written for, in
whatever order its members come back, and without mailings when it names none. A bot that was
made from a draft and changed by any calls, at times in whole microseconds, is kept when it is
created and when it is saved over its own row; and an update whose change comes from such calls
changes the bot that was read and keeps the outcome. The statements may be told to fail. -/
theorem bots_kept :
    (∀ (d : ScriptDocument) (j : Json), d.toJson.Rearranged j → ScriptDocument.decode j = .ok d) ∧
    (∀ (entries : List EntryPoint) (blocks : List Block) (j : Json),
      (Json.object [("entry_points", .list EntryPoint.toJson entries),
        ("blocks", .list Block.toJson blocks)]).Rearranged j →
          ScriptDocument.decode j = .ok ⟨entries, blocks, []⟩) ∧
    (∀ (members : List (String × Json)) (d : ScriptDocument),
      ScriptDocument.decode (.object members) = .ok d → (∀ m ∈ members, m.1 ≠ "mailings") →
        d.mailings = []) ∧
    (∀ (draft : BotDraft) (cycles : CyclePolicy) (created : Time) (bot : Bot)
      (calls : List BotCall),
      Bot.create draft cycles created = .ok bot →
        let after := (BotCall.performAll calls bot).1
        created.Whole → after.updatedAt.Whole → ∀ db db' : Database,
          (exec (createBot after) db = (.ok (), db') → db'.Keeps after) ∧
          ∀ old : BotRow, db.bots.get? after.id = some old → old.owner = after.owner →
            old.createdAt = after.createdAt →
              exec (saveBot (.ofBot after)) db = (.ok (), db') → db'.Keeps after) ∧
    ∀ (id : Uuid) (change : Bot → Except Error Bot),
      (∀ bot changed, change bot = .ok changed →
        ∃ calls, changed = (BotCall.performAll calls bot).1) →
      ∀ (db db' : Database) (written : Bot), exec (updateBot id change) db = (.ok written, db') →
        written.updatedAt.Whole →
          (∃ bot, readBot id (db.bots.get? id) = .ok bot ∧ change bot = .ok written) ∧
            db'.Keeps written := by
  refine ⟨fun d => d.recovers, ScriptDocument.recovers_unmailed, fun _ _ =>
    ScriptDocument.mailings_eq_nil, ?_, ?_⟩
  · intro draft cycles created bot calls hcreate after hcreated hupdated db db'
    obtain ⟨_, _, script, _, rfl⟩ := Bot.create_ok_iff.1 hcreate
    obtain ⟨_, _, hfixed⟩ := BotCall.performAll_fixed calls
      ⟨draft.id, draft.owner, draft.name, draft.token, .stopped, script, [], created, created⟩
    have hcreated' : after.createdAt.Whole := hfixed ▸ hcreated
    exact ⟨keeps_of_createBot hcreated' hupdated, fun _ hold howner hage =>
      keeps_of_saveBot hold howner hage hupdated⟩
  · intro id change hcalls db db' written hupdate hupdated
    refine ⟨?_, keeps_of_updateBot ?_ hupdate hupdated⟩
    · obtain ⟨row, bot, hrow, hread, hchange, _⟩ := updateBot_ok hupdate
      exact ⟨bot, by rw [hrow]; exact hread, hchange⟩
    · intro bot changed hchange
      obtain ⟨calls, rfl⟩ := hcalls bot changed hchange
      exact BotCall.performAll_fixed calls bot

/-- A bot with blocks of all kinds and a mailing is created, saved and given another mailing in a
database, and a document without mailings comes back with its lists exchanged. -/
theorem bots_kept_shop :
    let draft : BotDraft := ⟨⟨1⟩, 5, "Shop", "123:abc", [⟨"start", 1⟩],
      [⟨1, 2, "Hello", "Welcome", .message⟩, ⟨2, 3, "Name", "Who are you?", .question⟩,
        ⟨3, 0, "Size", "Which one?", .selection [⟨"Small", 0⟩, ⟨"Large", 0⟩]⟩]⟩
    let first : Bot := ⟨⟨1⟩, 5, "Shop", "123:abc", .stopped, .restore draft.entries draft.blocks,
      [], ⟨1000⟩, ⟨1000⟩⟩
    let after := (BotCall.performAll [.addMailing ⟨"news", "start", 1⟩ ⟨2000⟩] first).1
    let change := fun bot : Bot => bot.addMailing ⟨"again", "start", 0⟩ ⟨3000⟩
    let written := (BotCall.performAll [.addMailing ⟨"again", "start", 0⟩ ⟨3000⟩] after).1
    let created := (exec (createBot after) {}).2
    let saved := (exec (saveBot (.ofBot after)) created).2
    let updated := (exec (updateBot ⟨1⟩ change) saved).2
    written.mailings = [⟨"news", "start", 1⟩, ⟨"again", "start", 0⟩] ∧
      created.Keeps after ∧ saved.Keeps after ∧ updated.Keeps written ∧
      ScriptDocument.decode (.object [("blocks", .array []), ("entry_points", .array [])]) =
        .ok ⟨[], [], []⟩ := by
  intro draft first after change written created saved updated
  obtain ⟨_, hunmailed, _, hstored, hupdate⟩ := bots_kept
  have hcreate : Bot.create draft .reject ⟨1000⟩ = .ok first := by decide +kernel
  have hkeeps := hstored draft .reject ⟨1000⟩ first [.addMailing ⟨"news", "start", 1⟩ ⟨2000⟩]
    hcreate (by decide) (by decide +kernel)
  have hchange : ∀ bot changed, change bot = .ok changed →
      ∃ calls, changed = (BotCall.performAll calls bot).1 := by
    intro bot changed hchange
    have hcall : (BotCall.addMailing ⟨"again", "start", 0⟩ ⟨3000⟩).change bot = .ok changed :=
      hchange
    exact ⟨[.addMailing ⟨"again", "start", 0⟩ ⟨3000⟩], (BotCall.performAll_singleton hcall).symm⟩
  have hrow : exec (createBot after) {} = (.ok (), created) := Prod.ext (by decide +kernel) rfl
  have hold : created.bots.get? after.id = some (.ofBot after) := by
    rw [createBot_ok hrow]
    exact Table.get?_insert_self _ _
  refine ⟨by decide +kernel, (hkeeps {} created).1 hrow, ?_, ?_, ?_⟩
  · exact (hkeeps created saved).2 (.ofBot after) hold rfl rfl (Prod.ext (by decide +kernel) rfl)
  · exact (hupdate ⟨1⟩ change hchange saved updated written (Prod.ext (by decide +kernel) rfl)
      (by decide +kernel)).2
  · exact hunmailed [] [] _ (.object rfl (Json.forall₂_same _) (List.Perm.swap _ _ _))

end Database

end ScriptedChat
