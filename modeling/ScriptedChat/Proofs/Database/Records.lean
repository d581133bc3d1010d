import ScriptedChat.Proofs.Database.Statements

/-!
When tables hold participants. Under every address there is the row of the participant, the rows
of answers are those of the participants, and the bot of each of them is stored. What a query reads
is then known from the participants alone, and an update takes one of them, changes it and writes
it back, or leaves the tables as they were. What is written again are answers at different states,
so the rows that were there are no obstacle.
-/
namespace ScriptedChat

open ScriptedChat.Action Database

/-- Tables with a row for each participant and one for each of its answers. -/
structure Records (users : Table Participant.address) (db : Database) : Prop where
  participants : ∀ address,
    db.participants.get? address = (users.get? address).map ParticipantRow.ofParticipant
  answers : ∀ row, row ∈ db.answers.rows ↔
    ∃ p ∈ users.rows, ∃ a ∈ p.answers.rows, row = .ofAnswer p.address a
  answered : ∀ p ∈ users.rows, p.Storable
  kept : ∀ p ∈ users.rows, db.bots.contains p.address.bot = true

/-- The participant at an address, a fresh one if there is none. -/
def Participant.among (users : Table Participant.address) (address : Address) : Participant :=
  (users.get? address).getD (.fresh address)

namespace Participant

variable {users : Table Participant.address} {address : Address}

theorem among_of_get? {p : Participant} (h : users.get? address = some p) :
    among users address = p := by
  rw [among, h]
  rfl

theorem among_address (users : Table Participant.address) (address : Address) :
    (among users address).address = address := by
  cases hp : users.get? address with
  | none =>
    rw [among, hp]
    rfl
  | some p =>
    rw [among_of_get? hp]
    exact Table.key_of_get? hp

end Participant

/-- The statements of an update. -/
def changeParticipant {α : Type} (address : Address)
    (change : Participant → Except Error (α × Participant)) : Action Database α := do
  query (insertParticipant address)
  let row ← query (selectParticipant address " FOR UPDATE")
  let answers ← query (selectAnswers address)
  let (outcome, p) ← change (← readParticipant address row answers)
  query (Database.saveParticipant p)
  return outcome

theorem updateParticipant_eq {α : Type} (address : Address)
    (change : Participant → Except Error (α × Participant)) :
    Database.updateParticipant address change =
      Sql.transaction storeError (changeParticipant address change) := rfl

/-- A participant from its row and the answers of all users. -/
def participantOfRow (answers : List Answer) (row : ParticipantRow) :
    Action Database Participant := do
  let state ← stateOfColumn row.state
  return .restore row.address state (answers.filter fun a => a.user = row.address.user)

theorem participantsOfBot_eq (id : Uuid) :
    Database.participantsOfBot id = (do
      let rows ← query (selectParticipants id)
      let answers ← (← query (selectAnswersOfBot id)).mapM fun row => answerOfRow row
      rows.mapM (participantOfRow answers)) := rfl

namespace Records

variable {users : Table Participant.address} {db : Database} {address : Address}

theorem empty : Records .empty {} where
  participants _ := rfl
  answers _ := by
    constructor
    · intro h
      exact absurd h List.not_mem_nil
    · intro h
      obtain ⟨p, hp, _⟩ := h
      exact absurd hp List.not_mem_nil
  answered _ h := absurd h List.not_mem_nil
  kept _ h := absurd h List.not_mem_nil

/-- Further bots and changes of bots are no matter. -/
theorem saveBot (h : Records users db) (row : BotRow) :
    Records users { db with bots := db.bots.insert row } where
  participants := h.participants
  answers := h.answers
  answered := h.answered
  kept p hp := Table.contains_insert (h.kept p hp)

theorem contains_participant (h : Records users db) (address : Address) :
    db.participants.contains address = (users.get? address).isSome := by
  rw [Table.contains, h.participants, Option.isSome_map]

theorem among_storable (h : Records users db) (address : Address) :
    (Participant.among users address).Storable := by
  cases hp : users.get? address with
  | none =>
    rw [Participant.among, hp]
    intro a ha
    exact absurd ha List.not_mem_nil
  | some p =>
    rw [Participant.among_of_get? hp]
    exact h.answered p (Table.mem_of_get? hp)

/-- The answers of a participant are the rows at its address. -/
theorem answers_at (h : Records users db) (address : Address) (row : AnswerRow) :
    (row ∈ db.answers.rows ∧ row.key.address = address) ↔
      ∃ a ∈ (Participant.among users address).answers.rows, row = .ofAnswer address a := by
  rw [h.answers]
  constructor
  · intro hrow
    obtain ⟨⟨p, hp, a, ha, rfl⟩, haddress⟩ := hrow
    have haddress : p.address = address := haddress
    subst haddress
    rw [Participant.among_of_get? (Table.get?_key_of_mem hp)]
    exact ⟨a, ha, rfl⟩
  · intro hrow
    obtain ⟨a, ha, rfl⟩ := hrow
    refine ⟨?_, rfl⟩
    cases hp : users.get? address with
    | none =>
      rw [Participant.among, hp] at ha
      exact absurd ha List.not_mem_nil
    | some p =>
      rw [Participant.among_of_get? hp] at ha
      have haddress : p.address = address := Table.key_of_get? hp
      rw [← haddress]
      exact ⟨p, Table.mem_of_get? hp, a, ha, rfl⟩

theorem withParticipant (h : Records users db) {p : Participant} (hp : p.Storable)
    (hbot : db.bots.contains p.address.bot = true) :
    Records (users.insert p) (db.withParticipant p) where
  participants := Table.get?_insert_map (fun _ => rfl) h.participants p
  answers row := by
    rw [Database.withParticipant, Table.mem_foldl_insert p.answerRows_nodup
      (p.answerRows_free db.answers), Table.mem_filter, h.answers]
    simp only [Participant.answerRows, Table.mem_insert, List.mem_map]
    constructor
    · intro hrow
      rcases hrow with ⟨⟨q, hq, a, ha, rfl⟩, hne⟩ | ⟨a, ha, rfl⟩
      · exact ⟨q, Or.inr ⟨hq, of_decide_eq_true hne⟩, a, ha, rfl⟩
      · exact ⟨p, Or.inl rfl, a, ha, rfl⟩
    · intro hrow
      obtain ⟨q, hq, a, ha, rfl⟩ := hrow
      rcases hq with rfl | ⟨hq, hne⟩
      · exact Or.inr ⟨a, ha, rfl⟩
      · exact Or.inl ⟨⟨q, hq, a, ha, rfl⟩, decide_eq_true hne⟩
  answered q hq := by
    rcases Table.mem_insert.1 hq with rfl | ⟨hq, _⟩
    · exact hp
    · exact h.answered q hq
  kept q hq := by
    rcases Table.mem_insert.1 hq with rfl | ⟨hq, _⟩
    · exact hbot
    · exact h.kept q hq

theorem dropParticipants (h : Records users db) (id : Uuid) :
    Records (users.filter fun p => p.address.bot ≠ id) (db.dropParticipants id) where
  participants := Table.get?_filter_map h.participants fun r => r.address.bot ≠ id
  answers row := by
    rw [Database.dropParticipants, Table.mem_filter, h.answers]
    simp only [Table.mem_filter]
    constructor
    · intro hrow
      obtain ⟨⟨p, hp, a, ha, rfl⟩, hne⟩ := hrow
      exact ⟨p, ⟨hp, hne⟩, a, ha, rfl⟩
    · intro hrow
      obtain ⟨p, ⟨hp, hne⟩, a, ha, rfl⟩ := hrow
      exact ⟨⟨p, hp, a, ha, rfl⟩, hne⟩
  answered p hp := h.answered p (Table.mem_filter.1 hp).1
  kept p hp := h.kept p (Table.mem_filter.1 hp).1

/-- The participant of a row is read from the rows at its address. -/
theorem readParticipant_eq (h : Records users db) (address : Address) :
    readParticipant address (some (.ofParticipant (Participant.among users address)))
      (db.answers.rows.filter fun r => r.key.address = address) =
        .ok (Participant.among users address) := by
  have haddress := Participant.among_address users address
  have hrows : ∀ row, row ∈ db.answers.rows.filter (fun r => r.key.address = address) ↔
      ∃ a ∈ (Participant.among users address).answers.rows,
        row = .ofAnswer (Participant.among users address).address a := by
    intro row
    rw [haddress, ← h.answers_at]
    simp
  have hread := Database.readParticipant_eq (h.among_storable address) hrows
  rwa [haddress] at hread

/-- Of the answers of all participants of a bot, those of one user are the answers of the
participant. -/
theorem restore_eq (h : Records users db) {p : Participant} (hp : p ∈ users.rows) :
    Participant.restore p.address p.state
      (((db.answers.rows.filter fun r => r.key.address.bot = p.address.bot).map
        AnswerRow.answer).filter fun a => a.user = p.address.user) = p := by
  have hat := Participant.among_of_get? (Table.get?_key_of_mem hp)
  refine Database.restore_eq (h.answered p hp) fun b => ?_
  simp only [List.mem_filter, List.mem_map, decide_eq_true_eq]
  constructor
  · intro hb
    obtain ⟨⟨row, ⟨hrow, hbot⟩, rfl⟩, huser⟩ := hb
    have haddress : row.key.address = p.address := by
      cases hkey : row.key.address with
      | mk bot user =>
        have huser' : row.key.address.user = p.address.user := huser
        rw [hkey] at hbot huser'
        cases hp' : p.address
        simp_all
    obtain ⟨a, ha, rfl⟩ := (h.answers_at p.address row).1 ⟨hrow, haddress⟩
    rw [hat] at ha
    exact ⟨a, ha, answer_ofAnswer _ _⟩
  · intro hb
    obtain ⟨a, ha, rfl⟩ := hb
    rw [← hat] at ha
    have hrow := (h.answers_at p.address (.ofAnswer p.address a)).2 ⟨a, ha, rfl⟩
    exact ⟨⟨_, ⟨hrow.1, rfl⟩, answer_ofAnswer _ _⟩, rfl⟩

/-- After it was inserted, a participant is found; whoever is written over it is written as over
the rows before. -/
theorem exec_insertParticipant (h : Records users db) (hquiet : db.Quiet)
    (hbot : db.bots.contains address.bot = true) :
    ∃ participants, exec (insertParticipant address) db =
        (.ok (), { db with participants := participants }) ∧
      participants.get? address = some (.ofParticipant (Participant.among users address)) ∧
      ∀ p, p.address = address →
        participants.insert (.ofParticipant p) = db.participants.insert (.ofParticipant p) := by
  cases hp : users.get? address with
  | some p =>
    have hget := h.participants address
    rw [hp] at hget
    refine ⟨db.participants, ?_, ?_, fun _ _ => rfl⟩
    · rw [Database.exec_insertParticipant hquiet hbot, h.contains_participant, hp]
      rfl
    · rw [hget, Participant.among_of_get? hp]
      rfl
  | none =>
    refine ⟨db.participants.insert ⟨address, 0⟩, ?_, ?_, ?_⟩
    · rw [Database.exec_insertParticipant hquiet hbot, h.contains_participant, hp]
      rfl
    · rw [Participant.among, hp]
      exact Table.get?_insert_self _ _
    · intro p hp
      exact Table.insert_insert _ hp.symm

/-- An update writes the changed participant, or nothing. -/
theorem exec_updateParticipant (h : Records users db) (hquiet : db.Quiet)
    (hbot : db.bots.contains address.bot = true) {α : Type}
    {change : Participant → Except Error (α × Participant)}
    (hchange : ∀ outcome q, change (Participant.among users address) = .ok (outcome, q) →
      q.Storable ∧ q.address = address) :
    exec (Database.updateParticipant address change) db =
      match change (Participant.among users address) with
      | .ok (outcome, q) => (.ok outcome, db.withParticipant q)
      | .error e => (.error e, db) := by
  obtain ⟨participants, hinsert, hget, hoverwrite⟩ := h.exec_insertParticipant hquiet hbot
  have hinserted : Quiet { db with participants := participants } := hquiet
  have hread := h.readParticipant_eq address
  rw [← hget] at hread
  rw [updateParticipant_eq]
  cases hchanged : change (Participant.among users address) with
  | error e =>
    have hbody : exec (changeParticipant address change) db =
        (.error e, { db with participants := participants }) := by
      simp [changeParticipant, exec_bind, exec_query, hinsert, exec_selectParticipant hinserted,
        exec_selectAnswers hinserted, hread, hchanged]
    exact exec_transaction_error hquiet hbody rfl
  | ok changed =>
    obtain ⟨outcome, q⟩ := changed
    obtain ⟨hstorable, rfl⟩ := hchange outcome q hchanged
    have hrow : participants.contains q.address = true := by
      rw [Table.contains, hget]
      rfl
    have hsave := exec_saveParticipant hinserted (fun a ha => (hstorable a ha).2) hrow
    have hsame : Database.withParticipant { db with participants := participants } q =
        db.withParticipant q := by
      simp only [Database.withParticipant, hoverwrite q rfl]
    have hbody : exec (changeParticipant q.address change) db =
        (.ok outcome, db.withParticipant q) := by
      simp only [changeParticipant, exec_bind, exec_query, hinsert,
        exec_selectParticipant hinserted, exec_selectAnswers hinserted, Outcome.mapError_ok, hread,
        hchanged, exec_lift, hsave, hsame, exec_pure]
    exact exec_transaction_ok hquiet hbody hquiet

theorem exec_getParticipant (h : Records users db) (hquiet : db.Quiet) (address : Address) :
    exec (Database.getParticipant address) db =
      match users.get? address with
      | some p => (.ok p, db)
      | none => (.error (.participantNotFound address), db) := by
  have hget := h.participants address
  cases hp : users.get? address with
  | none =>
    rw [hp] at hget
    simp [Database.getParticipant, exec_bind, exec_query, exec_selectParticipant hquiet, hget]
  | some p =>
    have hread := h.readParticipant_eq address
    rw [Participant.among_of_get? hp] at hread
    rw [hp] at hget
    simp [Database.getParticipant, exec_bind, exec_query, exec_selectParticipant hquiet, hget,
      exec_selectAnswers hquiet, hread]

theorem exec_participantsOfBot (h : Records users db) (hquiet : db.Quiet) (bot : Uuid) :
    exec (Database.participantsOfBot bot) db =
      (.ok (users.rows.filter fun p => p.address.bot = bot), db) := by
  have hrows : db.participants.rows.filter (fun r => r.address.bot = bot) =
      (users.rows.filter fun p => p.address.bot = bot).map ParticipantRow.ofParticipant := by
    rw [Table.rows_eq_map (fun _ => rfl) h.participants, List.filter_map]
    rfl
  have hanswer : ∀ row ∈ db.answers.rows.filter fun r => r.key.address.bot = bot,
      exec (liftM (answerOfRow row) : Action Database Answer) db = (.ok row.answer, db) := by
    intro row hrow
    obtain ⟨p, _, a, _, rfl⟩ := (h.answers row).1 (List.mem_filter.1 hrow).1
    rw [exec_lift, answerOfRow_ofAnswer]
  have hanswers := exec_mapM hanswer
  generalize hlist : (db.answers.rows.filter fun r => r.key.address.bot = bot).map
    AnswerRow.answer = answers at hanswers
  have hparticipant : ∀ p ∈ users.rows.filter fun p => p.address.bot = bot,
      exec (participantOfRow answers (.ofParticipant p)) db = (.ok (id p), db) := by
    intro p hp
    obtain ⟨hmem, hbot⟩ := List.mem_filter.1 hp
    have hrestore := h.restore_eq hmem
    rw [of_decide_eq_true hbot, hlist] at hrestore
    simp only [participantOfRow, ParticipantRow.ofParticipant, stateOfColumn_toNat, exec_bind,
      exec_lift, exec_pure]
    exact congrArg (fun q => (Except.ok q, db)) hrestore
  have hall := exec_mapM hparticipant
  rw [List.map_id] at hall
  simp only [participantsOfBot_eq, exec_bind, exec_query, exec_selectParticipants hquiet,
    exec_selectAnswersOfBot hquiet, Outcome.mapError_ok, hanswers, hrows, List.mapM_map]
  exact hall

end Records

end ScriptedChat
