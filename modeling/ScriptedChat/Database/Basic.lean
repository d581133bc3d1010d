import ScriptedChat.Action
import ScriptedChat.Json.Basic
import ScriptedChat.Table
import ScriptedChat.Time

/-!
A database of four tables that knows the statements of the row stores and of the row bus. A
statement first looks at its parameters, then fails if it was told to, and only then has an
effect. A transaction that fails anywhere leaves every table as it was; only the numbers that
were given to bus messages are lost.
-/
namespace ScriptedChat

structure BotRow where
  id : Uuid
  owner : UserId
  name : String
  token : String
  status : String
  script : Json
  createdAt : Time
  updatedAt : Time

structure ParticipantRow where
  address : Address
  state : Int

/-- The key of an answer: a participant and a state. -/
structure AnswerKey where
  address : Address
  state : Int
  deriving DecidableEq

namespace AnswerKey

instance : Ord AnswerKey := ⟨compareLex (compareOn address) (compareOn state)⟩

instance : Std.TransOrd AnswerKey :=
  inferInstanceAs (Std.TransCmp (compareLex (compareOn address) (compareOn state)))

instance : Std.LawfulEqOrd AnswerKey where
  compare_self {a} := by
    show compareLex (compareOn address) (compareOn state) a a = .eq
    simp [compareLex, compareOn]
  eq_of_compare {a b} h := by
    have h : compareLex (compareOn address) (compareOn state) a b = .eq := h
    simp only [compareLex, compareOn, Ordering.then_eq_eq] at h
    cases a; cases b
    simp_all

end AnswerKey

structure AnswerRow where
  key : AnswerKey
  text : String

structure BusRow where
  id : Int
  topic : String
  destination : String
  payload : Json
  delivered : Bool

structure Database where
  bots : Table BotRow.id := .empty
  participants : Table ParticipantRow.address := .empty
  answers : Table AnswerRow.key := .empty
  messages : Table BusRow.id := .empty
  /-- The number of the next bus message. -/
  nextMessage : Int := 1
  /-- What the statements begin with that are told to fail. -/
  failing : List String := []

/-- A statement, or several in a row. -/
abbrev Sql (α : Type) := ExceptT DatabaseFault (StateM Database) α

/-- A parameter that can hold the character U+0000. -/
inductive Parameter
  | text (s : String)
  | json (j : Json)

def hasNul (s : String) : Bool := s.toList.contains '\x00'

def Parameter.fault? : Parameter → Option DatabaseFault
  | .text s => if hasNul s then some .nulInText else none
  | .json j => if j.anyText hasNul then some .nulInJson else none

namespace Sql

/-- What every statement does before its effect. -/
def execute (statement : String) (parameters : List Parameter := []) : Sql Unit := do
  match parameters.findSome? Parameter.fault? with
  | some fault => throw fault
  | none =>
    if (← get).failing.any fun start => start.toList.isPrefixOf statement.toList then
      throw .injected

/-- Runs statements of which all or none have an effect. -/
def transaction {ε α : Type} (onFault : DatabaseFault → ε)
    (body : ExceptT ε (StateM Database) α) : ExceptT ε (StateM Database) α := do
  let before ← get
  try
    ExceptT.adapt onFault (execute "BEGIN")
    let result ← body
    ExceptT.adapt onFault (execute "COMMIT")
    return result
  catch error =>
    modify fun db => { before with nextMessage := db.nextMessage }
    throw error

end Sql

namespace Database

/-- The error of a store whose statement failed. -/
def storeError (fault : DatabaseFault) : Error := .infrastructure (.database fault)

/-- Statements as an action of a store. -/
def query {α : Type} (statements : Sql α) : Action Database α :=
  ExceptT.adapt storeError statements

/-- Drops the answers and the participants of a bot. -/
def dropParticipants (db : Database) (bot : Uuid) : Database :=
  { db with
    participants := db.participants.filter fun r => r.address.bot ≠ bot
    answers := db.answers.filter fun r => r.key.address.bot ≠ bot }

end Database

end ScriptedChat
