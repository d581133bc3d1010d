import ScriptedChat.Script.Basic
import ScriptedChat.Text.Blank
import ScriptedChat.Time

/-!
Bots. A bot belongs to an operator, holds the credential of its channel, a script and the
mailings that were added to it, and records whether its channel session was asked to run.
Every change is checked as a whole, so a refused one leaves the bot as it was.
-/
namespace ScriptedChat

/-- What is known of the channel session of a bot. -/
inductive BotStatus
  | stopped
  | started
  /-- The command to start could not be published. -/
  | failed
  deriving DecidableEq, Inhabited

namespace BotStatus

def name : BotStatus → String
  | .stopped => "stopped"
  | .started => "started"
  | .failed => "failed"

def ofName (name : String) : Except Error BotStatus :=
  if name = "stopped" then .ok .stopped
  else if name = "started" then .ok .started
  else if name = "failed" then .ok .failed
  else .error (.infrastructure (.unknownStatus name))

end BotStatus

structure Bot where
  id : Uuid
  owner : UserId
  name : String
  token : String
  status : BotStatus
  script : Script
  /-- In the order in which they were added. -/
  mailings : List Mailing
  createdAt : Time
  updatedAt : Time
  deriving DecidableEq

/-- What is needed to make a bot. -/
structure BotDraft where
  id : Uuid
  owner : UserId
  name : String
  token : String
  entries : List EntryPoint
  blocks : List Block

namespace Bot

/-- A stopped bot with a script that obeys every rule. -/
def create (draft : BotDraft) (cycles : CyclePolicy) (now : Time) : Except Error Bot := do
  if Text.isBlank draft.name then throw (.invalidInput .emptyBotName)
  if Text.isBlank draft.token then throw (.invalidInput .emptyToken)
  let script ← Script.build draft.entries draft.blocks cycles
  return ⟨draft.id, draft.owner, draft.name, draft.token, .stopped, script, [], now, now⟩

def mailing? (bot : Bot) (name : String) : Option Mailing :=
  bot.mailings.find? (·.name == name)

/-- A mailing points at an entry point, and at a block or at the end. -/
def checkTargets (script : Script) (mailing : Mailing) : Except Error Unit :=
  if (script.entry? mailing.entryKey).isNone then .error (.entryNotFound mailing.entryKey)
  else if mailing.requiredState ≠ finished ∧ (script.block? mailing.requiredState).isNone then
    .error (.blockNotFound mailing.requiredState)
  else .ok ()

/-- Replaces the script by one that every mailing still fits. -/
def setScript (bot : Bot) (entries : List EntryPoint) (blocks : List Block)
    (cycles : CyclePolicy) (now : Time) : Except Error Bot := do
  let script ← Script.build entries blocks cycles
  bot.mailings.forM (checkTargets script)
  return { bot with script := script, updatedAt := now }

def addMailing (bot : Bot) (mailing : Mailing) (now : Time) : Except Error Bot := do
  if Text.isBlank mailing.name then throw (.invalidInput .emptyMailingName)
  if (bot.mailing? mailing.name).isSome then throw (.mailingDuplicated mailing.name)
  checkTargets bot.script mailing
  return { bot with mailings := bot.mailings ++ [mailing], updatedAt := now }

def setStatus (bot : Bot) (status : BotStatus) (now : Time) : Bot :=
  { bot with status := status, updatedAt := now }

/-- Refuses everyone but the owner. -/
def ensureOwner (bot : Bot) (owner : UserId) : Except Error Unit :=
  if bot.owner = owner then .ok () else .error (.permissionDenied bot.id)

/-- The bot with its script taken apart and put together again without checks. -/
def restored (bot : Bot) : Bot :=
  { bot with script := .restore bot.script.entries.rows bot.script.blocks.rows }

end Bot

end ScriptedChat
