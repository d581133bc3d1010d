import ScriptedChat.Envelope
import ScriptedChat.Table

/-!
The adapter between the bus and a chat platform. It keeps one running session for each bot that
was started: a start of a running bot does nothing, and a stop ends a session whether or not
the platform agrees. Every call to the platform is written down, and with every session that
was asked for whether it was cancelled.
-/
namespace ScriptedChat

/-- A call to the chat platform. -/
inductive Call
  | openSession (bot token : String)
  | closeSession (bot : String)
  | send (token : String) (user : UserId) (text : String) (buttons : List String)
  deriving DecidableEq

namespace Call

/-- The sort of a call. -/
def method : Call → String
  | .openSession _ _ => "open"
  | .closeSession _ => "close"
  | .send _ _ _ _ => "send"

/-- What a call is about: the bot of a session, or the text that is sent. -/
def subject : Call → String
  | .openSession bot _ => bot
  | .closeSession bot => bot
  | .send _ _ text _ => text

end Call

/-- The method and its arguments. -/
def Call.toJson : Call → Json
  | .openSession bot token => .array [.string "open", .string bot, .string token]
  | .closeSession bot => .array [.string "close", .string bot]
  | .send token user text buttons =>
    .array [.string "send", .string token, .integer user.toInt, .string text,
      .list .string buttons]

/-- A chat platform: for the calls so far and the next one, why it is refused, if it is. -/
structure Platform where
  refusal? : List Call → Call → Option String

inductive AdapterError
  | runnerNotFound (bot : String)
  | missingToken (bot : String)
  | channel (reason : String)
  | bus (error : BusError)
  deriving DecidableEq

/-- The name of a kind of error. -/
def AdapterError.kind : AdapterError → String
  | .runnerNotFound _ => "RunnerNotFound"
  | .missingToken _ => "MissingToken"
  | .channel _ => "Channel"
  | .bus _ => "Bus"

def AdapterError.message : AdapterError → String
  | .runnerNotFound bot => "no runner for bot " ++ bot
  | .missingToken bot => "start command for bot " ++ bot ++ " carries no token"
  | .channel reason => "channel error: " ++ reason
  | .bus error => error.message

/-- A session that the platform was asked for. -/
structure Session where
  bot : String
  cancelled : Bool
  deriving DecidableEq

/-- A running session: its bot, the credential it was opened with and its place among all
sessions. -/
structure Runner where
  bot : String
  token : String
  session : Nat
  deriving DecidableEq

structure Adapter where
  runners : Table Runner.bot := .empty
  /-- The calls so far, the first one first. -/
  calls : List Call := []
  sessions : List Session := []
  /-- Whether the adapter was told to end, which cancels every session. -/
  shutDown : Bool := false

/-- Work of the adapter that may fail. -/
abbrev AdapterAction (α : Type) := ExceptT AdapterError (StateM Adapter) α

namespace Adapter

/-- Makes a call to the platform. -/
def call (platform : Platform) (c : Call) : AdapterAction Unit := do
  let a ← get
  set { a with calls := a.calls ++ [c] }
  match platform.refusal? a.calls c with
  | some reason => throw (.channel reason)
  | none => return

def isRunning (a : Adapter) (bot : String) : Bool := a.runners.contains bot

/-- Opens a session unless there is one. -/
def start (platform : Platform) (bot token : String) : AdapterAction Unit := do
  let a ← get
  if a.isRunning bot then return
  modify fun b => { b with sessions := b.sessions ++ [⟨bot, b.shutDown⟩] }
  call platform (.openSession bot token)
  modify fun b => { b with runners := b.runners.insert ⟨bot, token, a.sessions.length⟩ }

/-- Cancels and closes a session. -/
def stop (platform : Platform) (bot : String) : AdapterAction Unit := do
  let a ← get
  match a.runners.get? bot with
  | none => throw (.runnerNotFound bot)
  | some runner =>
    modify fun b =>
      { b with
        runners := b.runners.erase bot
        sessions := b.sessions.modify runner.session fun s => { s with cancelled := true } }
    call platform (.closeSession bot)

/-- Sends a message through a running session. -/
def send (platform : Platform) (m : OutboundMessage) : AdapterAction Unit := do
  match (← get).runners.get? m.bot with
  | none => throw (.runnerNotFound m.bot)
  | some runner => call platform (.send runner.token m.user m.text m.buttons)

/-- Does something whose failure is of no account. -/
def attempt (m : AdapterAction Unit) : StateM Adapter Unit := do
  let _ ← m.run

/-- Stops every session. -/
def stopAll (platform : Platform) : StateM Adapter Unit := do
  (← get).runners.keys.forM fun bot => attempt (stop platform bot)

/-- Tells the adapter to end: every session is cancelled, those to come as well. -/
def shutdown (a : Adapter) : Adapter :=
  { a with shutDown := true, sessions := a.sessions.map fun s => { s with cancelled := true } }

/-- Handles one envelope. -/
def dispatch (platform : Platform) : Envelope → AdapterAction Unit
  | .message m => send platform m
  | .lifecycle ⟨bot, .start, some token⟩ => start platform bot token
  | .lifecycle ⟨bot, .start, none⟩ => throw (.missingToken bot)
  | .lifecycle ⟨bot, .stop, _⟩ => stop platform bot

end Adapter

end ScriptedChat
