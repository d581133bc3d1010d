import ScriptedChat.Proofs.Database.Messages
import ScriptedChat.Proofs.Database.Records

/-!
What the tables of participants and of answers always hold. Every state in them was written from
one of 32 bits, every participant has its bot and every answer its participant. A statement keeps
this or fails and does nothing, and a transaction that fails takes back what its statements did. So
it holds of every database that was only changed through its stores, whatever the changes do that
they are given and whichever statements fail. From rows in such an order the participants can be
put together again.
-/
namespace ScriptedChat

open ScriptedChat.Action

namespace Database

/-- Rows that were written from participants of stored bots and from their answers. -/
structure Intact (db : Database) : Prop where
  states : ∀ row ∈ db.participants.rows, ∃ s : State, row.state = s.toNat
  bots : ∀ row ∈ db.participants.rows, db.bots.contains row.address.bot = true
  answers : ∀ row ∈ db.answers.rows,
    ∃ a : Answer, Plain a.text ∧ row = .ofAnswer row.key.address a
  participants : ∀ row ∈ db.answers.rows, db.participants.contains row.key.address = true

namespace Intact

variable {db db' : Database}

theorem empty : Intact {} where
  states _ h := absurd h List.not_mem_nil
  bots _ h := absurd h List.not_mem_nil
  answers _ h := absurd h List.not_mem_nil
  participants _ h := absurd h List.not_mem_nil

/-- Nothing else matters than the two tables and which bots are stored. -/
theorem frame (h : db.Intact) (hparticipants : db'.participants = db.participants)
    (hanswers : db'.answers = db.answers)
    (hbots : ∀ id, db.bots.contains id = true → db'.bots.contains id = true) : db'.Intact where
  states := by
    rw [hparticipants]
    exact h.states
  bots := by
    rw [hparticipants]
    exact fun row hrow => hbots _ (h.bots row hrow)
  answers := by
    rw [hanswers]
    exact h.answers
  participants := by
    rw [hparticipants, hanswers]
    exact h.participants

theorem saveBot (h : db.Intact) (row : BotRow) :
    Intact { db with bots := db.bots.insert row } :=
  h.frame rfl rfl fun _ hid => Table.contains_insert hid

theorem writeParticipant (h : db.Intact) {address : Address} (s : State)
    (hbot : db.bots.contains address.bot = true) :
    Intact { db with participants := db.participants.insert ⟨address, s.toNat⟩ } where
  states row hrow := by
    rcases Table.mem_insert.1 hrow with rfl | ⟨hrow, _⟩
    · exact ⟨s, rfl⟩
    · exact h.states row hrow
  bots row hrow := by
    rcases Table.mem_insert.1 hrow with rfl | ⟨hrow, _⟩
    · exact hbot
    · exact h.bots row hrow
  answers := h.answers
  participants row hrow := Table.contains_insert (h.participants row hrow)

theorem writeAnswer (h : db.Intact) {address : Address} {a : Answer} (hplain : Plain a.text)
    (hrow : db.participants.contains address = true) :
    Intact { db with answers := db.answers.insert (.ofAnswer address a) } where
  states := h.states
  bots := h.bots
  answers row hrow := by
    rcases Table.mem_insert.1 hrow with rfl | ⟨hrow, _⟩
    · exact ⟨a, hplain, rfl⟩
    · exact h.answers row hrow
  participants row hmem := by
    rcases Table.mem_insert.1 hmem with rfl | ⟨hmem, _⟩
    · exact hrow
    · exact h.participants row hmem

theorem dropAnswers (h : db.Intact) (p : AnswerRow → Bool) :
    Intact { db with answers := db.answers.filter p } where
  states := h.states
  bots := h.bots
  answers row hrow := h.answers row (Table.mem_filter.1 hrow).1
  participants row hrow := h.participants row (Table.mem_filter.1 hrow).1

theorem dropParticipants (h : db.Intact) (bot : Uuid) : (db.dropParticipants bot).Intact where
  states row hrow := h.states row (Table.mem_filter.1 hrow).1
  bots row hrow := h.bots row (Table.mem_filter.1 hrow).1
  answers row hrow := h.answers row (Table.mem_filter.1 hrow).1
  participants row hrow := by
    obtain ⟨hrow, hne⟩ := Table.mem_filter.1 hrow
    obtain ⟨r, hr⟩ := Option.isSome_iff_exists.1 (h.participants row hrow)
    have haddress : r.address = row.key.address := Table.key_of_get? hr
    rw [Database.dropParticipants, Table.contains, Table.get?_filter, hr, Option.filter_some,
      haddress, if_pos hne]
    rfl

/-- A bot goes with its participants. -/
theorem dropBot (h : db.Intact) (bot : Uuid) :
    Intact { db.dropParticipants bot with bots := db.bots.erase bot } where
  states := (h.dropParticipants bot).states
  bots row hrow := by
    obtain ⟨hrow, hne⟩ := Table.mem_filter.1 hrow
    have hother : bot ≠ row.address.bot := Ne.symm (of_decide_eq_true hne)
    rw [Table.contains, Table.get?_erase_of_ne _ hother]
    exact h.bots row hrow
  answers := (h.dropParticipants bot).answers
  participants := (h.dropParticipants bot).participants

end Intact

/-! Statements keep the tables intact, also where they fail. -/

section Statements

variable {α ε : Type}

/-- A statement that is done had parameters that its columns take. -/
theorem parameters_fit {statement : String} {parameters : List Parameter} {db db' : Database}
    (h : exec (Sql.execute statement parameters) db = (.ok (), db')) :
    parameters.findSome? Parameter.fault? = none := by
  unfold Sql.execute at h
  cases hfault : parameters.findSome? Parameter.fault? with
  | none => rfl
  | some fault =>
    rw [hfault] at h
    cases h

/-- What a statement does comes after a look at its parameters, or is not done at all. -/
theorem execute_then {P : Database → Prop} {statement : String} {parameters : List Parameter}
    {f : Unit → Sql α} {db : Database} (h : P db)
    (hf : parameters.findSome? Parameter.fault? = none → P (exec (f ()) db).2) :
    P (exec (Sql.execute statement parameters >>= f) db).2 := by
  rw [exec_bind]
  rcases execute_cases statement parameters db with hrun | ⟨fault, hrun⟩
  · rw [hrun]
    exact hf (parameters_fit hrun)
  · rw [hrun]
    exact h

theorem preserves_insertBot (row : BotRow) :
    Preserves Intact (insertBot row) := by
  intro db h
  refine execute_then h fun _ => ?_
  simp only [exec_bind, exec_get]
  split
  · exact h
  · exact h.saveBot row

theorem preserves_saveBot (row : BotRow) :
    Preserves Intact (saveBot row) := by
  intro db h
  refine execute_then h fun _ => ?_
  rw [exec_modify]
  split
  · exact h.saveBot _
  · exact h

theorem preserves_updateStatus (id : Uuid) (status : BotStatus) (now : Time) :
    Preserves Intact (updateStatus id status now) := by
  intro db h
  refine execute_then h fun _ => ?_
  rw [exec_bind, exec_get]
  dsimp only
  split
  · exact h.saveBot _
  · exact h

theorem preserves_removeBot (id : Uuid) :
    Preserves Intact (removeBot id) := by
  intro db h
  refine execute_then h fun _ => ?_
  simp only [exec_bind, exec_get]
  split
  · exact h.dropBot id
  · exact h

theorem preserves_insertParticipant (address : Address) :
    Preserves Intact (insertParticipant address) := by
  intro db h
  refine execute_then h fun _ => ?_
  simp only [exec_bind, exec_get]
  split
  · exact h
  · split
    · rename_i hbot
      exact h.writeParticipant finished hbot
    · exact h

theorem preserves_updateParticipantState (address : Address) (s : State) :
    Preserves Intact (updateParticipantState address s) := by
  intro db h
  refine execute_then h fun _ => ?_
  rw [exec_modify]
  split
  · rename_i hrow
    obtain ⟨row, hget⟩ := Option.isSome_iff_exists.1 hrow
    obtain ⟨hmem, rfl⟩ := Table.get?_eq_some_iff.1 hget
    exact h.writeParticipant s (h.bots row hmem)
  · exact h

theorem preserves_removeAnswers (address : Address) :
    Preserves Intact (removeAnswers address) :=
  fun _ h => execute_then h fun _ => h.dropAnswers _

theorem preserves_insertAnswer (address : Address) (a : Answer) :
    Preserves Intact (insertAnswer address a) := by
  intro db h
  refine execute_then h fun hparameters => ?_
  have hplain : Plain a.text := by
    cases hnul : hasNul a.text with
    | false => exact hnul
    | true => simp [Parameter.fault?, hnul] at hparameters
  simp only [exec_bind, exec_get]
  split
  · exact h
  · split
    · rename_i hrow
      exact h.writeAnswer hplain hrow
    · exact h

theorem preserves_removeParticipants (bot : Uuid) :
    Preserves Intact (removeParticipants bot) :=
  fun _ h => execute_then h fun _ => h.dropParticipants bot

theorem preserves_query {statements : Sql α} (h : Preserves Intact statements) :
    Preserves Intact (query statements) :=
  h.adapt storeError

theorem preserves_selectBot (id : Uuid) (lock : String) :
    Preserves Intact (selectBot id lock) :=
  fun _ h => execute_then h fun _ => h

theorem preserves_selectParticipant (address : Address) (lock : String) :
    Preserves Intact (selectParticipant address lock) :=
  fun _ h => execute_then h fun _ => h

theorem preserves_selectAnswers (address : Address) :
    Preserves Intact (selectAnswers address) :=
  fun _ h => execute_then h fun _ => h

/-- What its statements did is kept or taken back. -/
theorem preserves_transaction {onFault : DatabaseFault → ε}
    {body : ExceptT ε (StateM Database) α} (h : Preserves Intact body) :
    Preserves Intact (Sql.transaction onFault body) := by
  intro db hdb
  rcases @transaction_cases ε α onFault body db with ⟨a, db', hbody, hrun⟩ | ⟨e, next, hrun, _⟩
  · rw [hrun]
    have hkept := h db hdb
    rw [hbody] at hkept
    exact hkept
  · rw [hrun]
    exact hdb.frame rfl rfl fun _ hid => hid

theorem preserves_saveParticipant (p : Participant) :
    Preserves Intact (saveParticipant p) :=
  (preserves_updateParticipantState p.address p.state).bind fun _ =>
    (preserves_removeAnswers p.address).bind fun _ => .forM (preserves_insertAnswer p.address)

end Statements

/-! So do the operations of the stores. -/

section Operations

variable {α : Type}

/-- A statement that says whether it found its row, and an error where it did not. -/
theorem preserves_orFail {statement : Sql Bool} (h : Preserves Intact statement) (e : Error) :
    Preserves Intact (do unless ← query statement do throw e : Action Database Unit) := by
  refine (preserves_query h).bind fun found => ?_
  cases found with
  | true => exact .pure ()
  | false => exact .throw e

theorem preserves_createBot (bot : Bot) : Preserves Intact (createBot bot) :=
  preserves_orFail (preserves_insertBot (.ofBot bot)) (.botAlreadyExists bot.id)

theorem preserves_updateBot (id : Uuid) (change : Bot → Except Error Bot) :
    Preserves Intact (updateBot id change) := by
  refine preserves_transaction ?_
  refine (preserves_query (preserves_selectBot id _)).bind fun row => ?_
  refine (Preserves.lift _).bind fun bot => ?_
  refine (Preserves.lift _).bind fun changed => ?_
  exact (preserves_query (preserves_saveBot _)).bind fun _ => .pure _

theorem preserves_setStatus (id : Uuid) (status : BotStatus) (now : Time) :
    Preserves Intact (setStatus id status now) :=
  preserves_orFail (preserves_updateStatus id status now) (.botNotFound id)

theorem preserves_deleteBot (id : Uuid) : Preserves Intact (deleteBot id) :=
  preserves_orFail (preserves_removeBot id) (.botNotFound id)

theorem preserves_updateParticipant (address : Address)
    (change : Participant → Except Error (α × Participant)) :
    Preserves Intact (updateParticipant address change) := by
  refine preserves_transaction ?_
  refine (preserves_query (preserves_insertParticipant address)).bind fun _ => ?_
  refine (preserves_query (preserves_selectParticipant address _)).bind fun row => ?_
  refine (preserves_query (preserves_selectAnswers address)).bind fun answers => ?_
  refine (Preserves.lift _).bind fun p => ?_
  refine (Preserves.lift _).bind fun changed => ?_
  exact (preserves_query (preserves_saveParticipant changed.2)).bind fun _ => .pure _

theorem preserves_deleteParticipants (bot : Uuid) :
    Preserves Intact (deleteParticipants bot) :=
  preserves_query (preserves_removeParticipants bot)

end Operations

/-- The databases that come from an empty one through the stores, with any changes and whichever
statements fail; what happens to messages meanwhile is no matter. -/
inductive Reachable : Database → Prop
  | empty : Reachable {}
  | createBot {db : Database} (bot : Bot) (h : Reachable db) :
      Reachable (exec (createBot bot) db).2
  | updateBot {db : Database} (id : Uuid) (change : Bot → Except Error Bot) (h : Reachable db) :
      Reachable (exec (updateBot id change) db).2
  | setStatus {db : Database} (id : Uuid) (status : BotStatus) (now : Time) (h : Reachable db) :
      Reachable (exec (setStatus id status now) db).2
  | deleteBot {db : Database} (id : Uuid) (h : Reachable db) :
      Reachable (exec (deleteBot id) db).2
  | updateParticipant {db : Database} {α : Type} (address : Address)
      (change : Participant → Except Error (α × Participant)) (h : Reachable db) :
      Reachable (exec (updateParticipant address change) db).2
  | deleteParticipants {db : Database} (bot : Uuid) (h : Reachable db) :
      Reachable (exec (deleteParticipants bot) db).2
  | elsewhere {db : Database} (messages : Table BusRow.id) (nextMessage : Int)
      (failing : List String) (h : Reachable db) :
      Reachable { db with messages, nextMessage, failing }

/-- The stores keep the tables intact. -/
theorem Reachable.intact {db : Database} (h : db.Reachable) : db.Intact := by
  induction h with
  | empty => exact Intact.empty
  | createBot bot _ ih => exact preserves_createBot bot _ ih
  | updateBot id change _ ih => exact preserves_updateBot id change _ ih
  | setStatus id status now _ ih => exact preserves_setStatus id status now _ ih
  | deleteBot id _ ih => exact preserves_deleteBot id _ ih
  | updateParticipant address change _ ih => exact preserves_updateParticipant address change _ ih
  | deleteParticipants bot _ ih => exact preserves_deleteParticipants bot _ ih
  | elsewhere _ _ _ _ ih => exact ih.frame rfl rfl fun _ hid => hid

/-! The participants whose rows intact tables hold. -/

section Users

variable {db : Database}

theorem answer_of_ofAnswer {row : AnswerRow} {a : Answer}
    (h : row = .ofAnswer row.key.address a) :
    row.answer = ⟨row.key.address.user, a.state, a.text⟩ := by
  rw [h]
  exact answer_ofAnswer _ _

/-- The rows of answers at an address. -/
def answerRowsAt (db : Database) (address : Address) : List AnswerRow :=
  db.answers.rows.filter fun r => r.key.address = address

theorem mem_answerRowsAt {address : Address} {row : AnswerRow} :
    row ∈ db.answerRowsAt address ↔ row ∈ db.answers.rows ∧ row.key.address = address := by
  rw [answerRowsAt, List.mem_filter, decide_eq_true_eq]

/-- The participant of a row. -/
def userOf (db : Database) (row : ParticipantRow) : Participant :=
  .restore row.address (UInt32.ofNat row.state.toNat)
    ((db.answerRowsAt row.address).map AnswerRow.answer)

/-- The participants of all rows. -/
def users (db : Database) : Table Participant.address where
  rows := db.participants.rows.map db.userOf
  ascending := List.pairwise_map.2 db.participants.ascending

namespace Intact

theorem ofParticipant_userOf (h : db.Intact) {row : ParticipantRow}
    (hrow : row ∈ db.participants.rows) : .ofParticipant (db.userOf row) = row := by
  obtain ⟨s, hs⟩ := h.states row hrow
  cases row
  simp_all [userOf, Participant.restore, ParticipantRow.ofParticipant]

/-- The answers at an address are at different states. -/
theorem states_nodup (h : db.Intact) (address : Address) :
    (((db.answerRowsAt address).map AnswerRow.answer).map Answer.state).Nodup := by
  rw [List.map_map]
  refine List.pairwise_map.2 ((db.answers.ascending.filter _).imp_of_mem ?_)
  intro x y hx hy hlt hstate
  obtain ⟨hx, hxaddress⟩ := mem_answerRowsAt.1 hx
  obtain ⟨hy, hyaddress⟩ := mem_answerRowsAt.1 hy
  obtain ⟨a, _, ha⟩ := h.answers x hx
  obtain ⟨b, _, hb⟩ := h.answers y hy
  simp only [Function.comp_apply, answer_of_ofAnswer ha, answer_of_ofAnswer hb] at hstate
  -- The address and the state make the key, and there is one row under a key.
  have hkey : x.key = y.key := by
    rw [ha, hb, hxaddress, hyaddress]
    simp [AnswerRow.ofAnswer, hstate]
  exact Table.ne_of_compare_lt hlt hkey

theorem mem_answers_userOf (h : db.Intact) (row : ParticipantRow) (a : Answer) :
    a ∈ (db.userOf row).answers.rows ↔ ∃ r ∈ db.answerRowsAt row.address, r.answer = a := by
  rw [userOf, Participant.restore, Table.mem_ofList (h.states_nodup row.address), List.mem_map]

/-- The tables hold these participants. -/
theorem records (h : db.Intact) : Records db.users db where
  participants address := by
    cases hrow : db.participants.get? address with
    | none =>
      have hnone : db.users.get? address = none := by
        refine Table.get?_eq_none_iff.2 fun p hp => ?_
        obtain ⟨row, hmem, rfl⟩ := List.mem_map.1 hp
        exact Table.get?_eq_none_iff.1 hrow row hmem
      rw [hnone]
      rfl
    | some row =>
      obtain ⟨hmem, rfl⟩ := Table.get?_eq_some_iff.1 hrow
      have huser : db.userOf row ∈ db.users.rows := List.mem_map_of_mem hmem
      have hget : db.users.get? row.address = some (db.userOf row) := Table.get?_key_of_mem huser
      rw [hget, Option.map_some, h.ofParticipant_userOf hmem]
  answers row := by
    constructor
    · intro hrow
      obtain ⟨a, _, ha⟩ := h.answers row hrow
      obtain ⟨r, hr⟩ := Option.isSome_iff_exists.1 (h.participants row hrow)
      obtain ⟨hmem, haddress⟩ := Table.get?_eq_some_iff.1 hr
      refine ⟨db.userOf r, List.mem_map_of_mem hmem, row.answer, ?_, ?_⟩
      · exact (h.mem_answers_userOf r _).2 ⟨row, mem_answerRowsAt.2 ⟨hrow, haddress.symm⟩, rfl⟩
      · show row = .ofAnswer r.address row.answer
        rw [haddress, answer_of_ofAnswer ha]
        exact ha
    · intro hrow
      obtain ⟨p, hp, a, ha, rfl⟩ := hrow
      obtain ⟨r, _, rfl⟩ := List.mem_map.1 hp
      obtain ⟨row, hrow, rfl⟩ := (h.mem_answers_userOf r a).1 ha
      obtain ⟨hrow, haddress⟩ := mem_answerRowsAt.1 hrow
      obtain ⟨b, _, hb⟩ := h.answers row hrow
      have hsame : AnswerRow.ofAnswer r.address row.answer = row := by
        rw [answer_of_ofAnswer hb, ← haddress]
        exact hb.symm
      show AnswerRow.ofAnswer r.address row.answer ∈ db.answers.rows
      rw [hsame]
      exact hrow
  answered p hp a ha := by
    obtain ⟨r, _, rfl⟩ := List.mem_map.1 hp
    obtain ⟨row, hrow, rfl⟩ := (h.mem_answers_userOf r a).1 ha
    obtain ⟨hrow, haddress⟩ := mem_answerRowsAt.1 hrow
    obtain ⟨b, hplain, hb⟩ := h.answers row hrow
    rw [answer_of_ofAnswer hb]
    exact ⟨congrArg Address.user haddress, hplain⟩
  kept p hp := by
    obtain ⟨r, hr, rfl⟩ := List.mem_map.1 hp
    exact h.bots r hr

end Intact

end Users

end Database

end ScriptedChat
