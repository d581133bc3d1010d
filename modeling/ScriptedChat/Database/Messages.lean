import ScriptedChat.Bus.Publisher
import ScriptedChat.Database.Basic

/-!
The bus as a table of rows. A batch is inserted in one transaction, a row for each envelope,
under ascending numbers. A subscriber reads the rows that were not delivered yet, a hundred at
a time and only when it has none in hand, and leaves out those it handed out before. A row that
is no envelope is marked as delivered when it is met, so it never stands in the way.
-/
namespace ScriptedChat.Database

/-- Statements as a computation of the bus. -/
def busQuery {α : Type} (statements : Sql α) : ExceptT BusError (StateM Database) α :=
  ExceptT.adapt BusError.database statements

/-- Adds a row under the next number. -/
def appendRow (topic destination : String) (payload : Json) (delivered : Bool)
    (db : Database) : Database :=
  { db with
    messages := db.messages.insert ⟨db.nextMessage, topic, destination, payload, delivered⟩
    nextMessage := db.nextMessage + 1 }

def insertMessage (e : Envelope) : Sql Unit := do
  Sql.execute "INSERT INTO bus_messages (topic, destination, payload) VALUES ($1, $2, $3)"
    [.text e.topic.name, .text e.destination, .json e.payload]
  modify (appendRow e.topic.name e.destination e.payload false)

def publish : Publisher Database := fun batch =>
  if batch.isEmpty then return .ok ()
  else
    ExceptT.run <| Sql.transaction BusError.database do
      busQuery (batch.forM insertMessage)
      busQuery (Sql.execute "SELECT pg_notify($1, '')")

/-- The most rows that are read at once. -/
def pageSize : Nat := 100

/-- The first rows that were not delivered and that are not among some numbers. -/
def selectMessages (except : List Int) : Sql (List BusRow) := do
  Sql.execute ("SELECT id, topic, payload FROM bus_messages WHERE delivered_at IS NULL AND " ++
    "NOT (id = ANY($1)) ORDER BY id LIMIT $2")
  let rows := (← get).messages.rows.filter fun r => !r.delivered && !except.contains r.id
  return rows.take pageSize

/-- Marks the row of a number as delivered, if there is one. -/
def markDelivered (id : Int) : Sql Unit := do
  Sql.execute "UPDATE bus_messages SET delivered_at = NOW() WHERE id = $1"
  modify fun db =>
    match db.messages.get? id with
    | some row => { db with messages := db.messages.insert { row with delivered := true } }
    | none => db

end ScriptedChat.Database

namespace ScriptedChat

/-- What a subscriber has in hand. -/
structure Inbox where
  /-- Deliveries that were read and not handed out. -/
  buffer : List Delivery := []
  /-- The numbers of deliveries that were read and not acknowledged. -/
  inFlight : List Int := []
  deriving DecidableEq

/-- A subscriber together with the database that it reads. -/
structure RowBus where
  inbox : Inbox
  database : Database

namespace RowBus

abbrev Work (α : Type) := ExceptT BusError (StateM RowBus) α

def databasePart : Part RowBus Database := ⟨database, fun b db => { b with database := db }⟩

def sql {α : Type} (statements : Sql α) : Work α :=
  databasePart.lift (Database.busQuery statements)

/-- What a new subscriber does first. -/
def connect : Sql Unit := Sql.execute "LISTEN \"bus_messages\""

/-- Takes a row in hand, or marks it as delivered if it is no envelope. -/
def take (row : BusRow) : Work Unit := do
  match Envelope.ofParts row.topic row.payload with
  | .ok e =>
    modify fun b =>
      { b with inbox := ⟨b.inbox.buffer ++ [⟨row.id, e⟩], b.inbox.inFlight ++ [row.id]⟩ }
  | .error _ => sql (Database.markDelivered row.id)

/-- Reads a page of rows and tells whether there were any. -/
def fetch : Work Bool := do
  let rows ← sql (Database.selectMessages (← get).inbox.inFlight)
  rows.forM take
  return !rows.isEmpty

/-- The delivery at the front of the buffer. -/
def pop : Work (Option Delivery) := do
  let b ← get
  match b.inbox.buffer with
  | [] => return none
  | d :: rest =>
    set { b with inbox := { b.inbox with buffer := rest } }
    return some d

/-- The next delivery. Pages are read until one has an envelope or there are no more rows; each
of them marks its rows, so there are at most as many as rows that were not delivered. -/
def nextWithin : Nat → Work (Option Delivery)
  | 0 => pop
  | pages + 1 => do
    match ← pop with
    | some d => return some d
    | none =>
      if ← fetch then nextWithin pages else return none

def undelivered (b : RowBus) : Nat :=
  (b.database.messages.rows.filter fun r => !r.delivered).length

def next : Work (Option Delivery) := do
  nextWithin ((← get).undelivered + 1)

/-- Marks a row as delivered and forgets that it was handed out. -/
def ack (id : Int) : Work Unit := do
  sql (Database.markDelivered id)
  modify fun b =>
    { b with inbox := { b.inbox with inFlight := b.inbox.inFlight.filter (· != id) } }

def subscriber : Subscriber RowBus where
  next := next.run
  ack id := (ack id).run

end RowBus

end ScriptedChat
