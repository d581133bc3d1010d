import ScriptedChat.Database.Bots
import ScriptedChat.Store.Interface

/-!
Participants as rows, with a row for each answer. Saving a participant writes its answers anew; no
two answers of a participant are at one state, and each belongs to a participant that is stored.
A state outside 32 bits fails the query that meets it; answers are looked at before the
participant they belong to.
-/
namespace ScriptedChat.Database

def stateOfColumn (value : Int) : Except Error State :=
  if 0 ≤ value ∧ value < UInt32.size then .ok (UInt32.ofNat value.toNat)
  else .error (.infrastructure (.stateOutOfRange value))

def answerOfRow (row : AnswerRow) : Except Error Answer := do
  return ⟨row.key.address.user, ← stateOfColumn row.key.state, row.text⟩

/-- Inserts a participant unless there is one; its bot has to be stored. -/
def insertParticipant (address : Address) : Sql Unit := do
  Sql.execute ("INSERT INTO participants (bot_id, user_id, current_state) VALUES ($1, $2, 0) " ++
    "ON CONFLICT (bot_id, user_id) DO NOTHING")
  let db ← get
  unless db.participants.contains address do
    unless db.bots.contains address.bot do throw .participantWithoutBot
    modify fun db => { db with participants := db.participants.insert ⟨address, 0⟩ }

/-- The row of a participant, if there is one. -/
def selectParticipant (address : Address) (lock : String) : Sql (Option ParticipantRow) := do
  Sql.execute ("SELECT current_state FROM participants WHERE bot_id = $1 AND user_id = $2" ++ lock)
  return (← get).participants.get? address

/-- The answers of a participant by state. -/
def selectAnswers (address : Address) : Sql (List AnswerRow) := do
  Sql.execute "SELECT state, text FROM answers WHERE bot_id = $1 AND user_id = $2 ORDER BY state"
  return (← get).answers.rows.filter fun r => r.key.address = address

/-- The participants of a bot by user. -/
def selectParticipants (bot : Uuid) : Sql (List ParticipantRow) := do
  Sql.execute "SELECT user_id, current_state FROM participants WHERE bot_id = $1 ORDER BY user_id"
  return (← get).participants.rows.filter fun r => r.address.bot = bot

/-- The answers of all participants of a bot by user and state. -/
def selectAnswersOfBot (bot : Uuid) : Sql (List AnswerRow) := do
  Sql.execute
    "SELECT user_id, state, text FROM answers WHERE bot_id = $1 ORDER BY user_id, state"
  return (← get).answers.rows.filter fun r => r.key.address.bot = bot

/-- Sets the state of a participant, if there is one. -/
def updateParticipantState (address : Address) (state : State) : Sql Unit := do
  Sql.execute "UPDATE participants SET current_state = $3 WHERE bot_id = $1 AND user_id = $2"
  modify fun db =>
    if db.participants.contains address then
      { db with participants := db.participants.insert ⟨address, state.toNat⟩ }
    else db

def removeAnswers (address : Address) : Sql Unit := do
  Sql.execute "DELETE FROM answers WHERE bot_id = $1 AND user_id = $2"
  modify fun db => { db with answers := db.answers.filter fun r => r.key.address ≠ address }

/-- Inserts an answer; its key has to be free, and its participant has to be stored. -/
def insertAnswer (address : Address) (a : Answer) : Sql Unit := do
  Sql.execute "INSERT INTO answers (bot_id, user_id, state, text) VALUES ($1, $2, $3, $4)"
    [.text a.text]
  let db ← get
  let row : AnswerRow := ⟨⟨address, a.state.toNat⟩, a.text⟩
  if db.answers.contains row.key then throw .answerRepeated
  unless db.participants.contains address do throw .answerWithoutParticipant
  set { db with answers := db.answers.insert row }

/-- Writes a participant over its rows. -/
def saveParticipant (p : Participant) : Sql Unit := do
  updateParticipantState p.address p.state
  removeAnswers p.address
  p.answers.rows.forM (insertAnswer p.address)

def removeParticipants (bot : Uuid) : Sql Unit := do
  Sql.execute "DELETE FROM participants WHERE bot_id = $1"
  modify fun db => db.dropParticipants bot

/-- A participant from its rows. -/
def readParticipant (address : Address) (row : Option ParticipantRow)
    (answers : List AnswerRow) : Except Error Participant := do
  match row with
  | none => throw (.participantNotFound address)
  | some row =>
    let answers ← answers.mapM answerOfRow
    return .restore address (← stateOfColumn row.state) answers

def updateParticipant {α : Type} (address : Address)
    (change : Participant → Except Error (α × Participant)) : Action Database α :=
  Sql.transaction storeError do
    query (insertParticipant address)
    let row ← query (selectParticipant address " FOR UPDATE")
    let answers ← query (selectAnswers address)
    let (outcome, p) ← change (← readParticipant address row answers)
    query (saveParticipant p)
    return outcome

def getParticipant (address : Address) : Action Database Participant := do
  match ← query (selectParticipant address "") with
  | none => throw (.participantNotFound address)
  | some row => readParticipant address (some row) (← query (selectAnswers address))

/-- The participants of a bot by user. Answers without a participant are read and left out. -/
def participantsOfBot (bot : Uuid) : Action Database (List Participant) := do
  let rows ← query (selectParticipants bot)
  let answers ← (← query (selectAnswersOfBot bot)).mapM fun row => answerOfRow row
  rows.mapM fun row => do
    let state ← stateOfColumn row.state
    return Participant.restore row.address state
      (answers.filter fun a => a.user = row.address.user)

def deleteParticipants (bot : Uuid) : Action Database Unit := query (removeParticipants bot)

def stores : Stores Database where
  createBot := createBot
  updateBot := updateBot
  setStatus := setStatus
  deleteBot := deleteBot
  getBot := getBot
  botsOfOwner := botsOfOwner
  botsWithStatus := botsWithStatus
  updateParticipant := updateParticipant
  getParticipant := getParticipant
  participantsOfBot := participantsOfBot
  deleteParticipants := deleteParticipants

end ScriptedChat.Database
