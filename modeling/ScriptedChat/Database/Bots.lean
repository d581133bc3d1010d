import ScriptedChat.Database.Basic
import ScriptedChat.View

/-!
Bots as rows. The script and the mailings of a bot are one JSON document, and its times are
kept in whole microseconds. A row that cannot be read fails every query that meets it, first
for its document and then for its status.
-/
namespace ScriptedChat.BotRow

def ofBot (bot : Bot) : BotRow where
  id := bot.id
  owner := bot.owner
  name := bot.name
  token := bot.token
  status := bot.status.name
  script := bot.document.toJson
  createdAt := bot.createdAt.toMicros
  updatedAt := bot.updatedAt.toMicros

def toBot (row : BotRow) : Except Error Bot := do
  match ScriptDocument.decode row.script with
  | .error _ => throw (.infrastructure .malformedScript)
  | .ok document =>
    let status ← BotStatus.ofName row.status
    return {
      id := row.id
      owner := row.owner
      name := row.name
      token := row.token
      status := status
      script := .restore document.entries document.blocks
      mailings := document.mailings
      createdAt := row.createdAt
      updatedAt := row.updatedAt }

/-- The columns that are written, as parameters in their order. -/
def parameters (row : BotRow) : List Parameter :=
  [.text row.name, .text row.token, .text row.status, .json row.script]

end ScriptedChat.BotRow

namespace ScriptedChat.Database

def selectBots (condition : String) : Sql Unit :=
  .execute ("SELECT id, owner_id, name, token, status, script, created_at, updated_at FROM bots" ++
    " WHERE " ++ condition)

/-- Inserts a row and tells whether its key was free. -/
def insertBot (row : BotRow) : Sql Bool := do
  Sql.execute ("INSERT INTO bots (id, owner_id, name, token, status, script, created_at, " ++
    "updated_at) VALUES ($1, $2, $3, $4, $5, $6, $7, $8)") row.parameters
  if (← get).bots.contains row.id then return false
  modify fun db => { db with bots := db.bots.insert row }
  return true

/-- The row of a bot, if there is one. -/
def selectBot (id : Uuid) (lock : String) : Sql (Option BotRow) := do
  selectBots ("id = $1" ++ lock)
  return (← get).bots.get? id

/-- The rows that satisfy a test, oldest first; rows of one age come by identifier. -/
def selectBotsWhere (condition : String) (p : BotRow → Bool) : Sql (List BotRow) := do
  selectBots (condition ++ " ORDER BY created_at, id")
  return ((← get).bots.rows.filter p).mergeSort fun a b => a.createdAt.le b.createdAt

/-- Overwrites a row but for its owner and the time of its creation. -/
def saveBot (row : BotRow) : Sql Unit := do
  Sql.execute ("UPDATE bots SET name = $2, token = $3, status = $4, script = $5, " ++
    "updated_at = $6 WHERE id = $1") row.parameters
  modify fun db =>
    match db.bots.get? row.id with
    | some old =>
      let saved := { row with owner := old.owner, createdAt := old.createdAt }
      { db with bots := db.bots.insert saved }
    | none => db

/-- Sets the status of a row and tells whether there is one. -/
def updateStatus (id : Uuid) (status : BotStatus) (now : Time) : Sql Bool := do
  Sql.execute "UPDATE bots SET status = $2, updated_at = $3 WHERE id = $1"
  match (← get).bots.get? id with
  | some row =>
    let saved := { row with status := status.name, updatedAt := now.toMicros }
    modify fun db => { db with bots := db.bots.insert saved }
    return true
  | none => return false

/-- Deletes a row with everything that belongs to it, and tells whether there was one. -/
def removeBot (id : Uuid) : Sql Bool := do
  Sql.execute "DELETE FROM bots WHERE id = $1"
  if (← get).bots.contains id then
    modify fun db => { db.dropParticipants id with bots := db.bots.erase id }
    return true
  return false

def createBot (bot : Bot) : Action Database Unit := do
  unless ← query (insertBot (.ofBot bot)) do throw (.botAlreadyExists bot.id)

/-- The bot of a row that has to exist. -/
def readBot (id : Uuid) : Option BotRow → Except Error Bot
  | some row => row.toBot
  | none => .error (.botNotFound id)

def updateBot (id : Uuid) (change : Bot → Except Error Bot) : Action Database Bot :=
  Sql.transaction storeError do
    let bot ← readBot id (← query (selectBot id " FOR UPDATE"))
    let bot ← change bot
    query (saveBot (.ofBot bot))
    return bot

def setStatus (id : Uuid) (status : BotStatus) (now : Time) : Action Database Unit := do
  unless ← query (updateStatus id status now) do throw (.botNotFound id)

def deleteBot (id : Uuid) : Action Database Unit := do
  unless ← query (removeBot id) do throw (.botNotFound id)

def getBot (id : Uuid) : Action Database Bot := do
  readBot id (← query (selectBot id ""))

def botsOfOwner (owner : UserId) : Action Database (List Bot) := do
  let rows ← query (selectBotsWhere "owner_id = $1" fun r => r.owner = owner)
  rows.mapM fun row => row.toBot

def botsWithStatus (status : BotStatus) : Action Database (List Bot) := do
  let rows ← query (selectBotsWhere "status = $1" fun r => r.status = status.name)
  rows.mapM fun row => row.toBot

end ScriptedChat.Database
