import ScriptedChat.Identity
import ScriptedChat.Text.Quoted

/-!
What can go wrong in the engine, and the text that says so. Faults of input, of the stores and
of the bus are kept as causes; their wording is in one function each.
-/
namespace ScriptedChat

/-- A value that an operator or a user gave and that breaks a rule. -/
inductive InputFault
  | zeroState
  | emptyTitle (state : State)
  | emptyText (state : State)
  | noOptions (state : State)
  | emptyOption (state : State)
  | noEntryPoint
  | emptyEntryKey
  | entryWithoutTarget (key : String)
  | emptyAnswer (state : State)
  | emptyBotName
  | emptyToken
  | emptyMailingName
  | unknownCyclePolicy (name : String)
  | missingOwner
  | ownerNotInteger (text : String)
  | other (text : String)
  deriving DecidableEq

def InputFault.message : InputFault → String
  | .zeroState => "block state must not be 0"
  | .emptyTitle s => "block " ++ toString s ++ " has an empty title"
  | .emptyText s => "block " ++ toString s ++ " has an empty text"
  | .noOptions s => "selection block " ++ toString s ++ " has no options"
  | .emptyOption s => "selection block " ++ toString s ++ " has an option with empty text"
  | .noEntryPoint => "a bot must define at least one entry point"
  | .emptyEntryKey => "entry point key must not be empty"
  | .entryWithoutTarget key => "entry point " ++ Text.quoted key ++ " must target a block"
  | .emptyAnswer s => "empty answer at state " ++ toString s
  | .emptyBotName => "bot name must not be empty"
  | .emptyToken => "bot token must not be empty"
  | .emptyMailingName => "mailing name must not be empty"
  | .unknownCyclePolicy name =>
    "unknown cycle policy " ++ Text.quoted name ++ ", expected \"permissive\" or \"reject\""
  | .missingOwner => "missing X-Owner-Id header"
  | .ownerNotInteger text => "X-Owner-Id must be an integer, got " ++ Text.quoted text
  | .other text => text

/-- A statement that the database refused. -/
inductive DatabaseFault
  | injected
  /-- A participant whose bot is not stored. -/
  | participantWithoutBot
  /-- An answer whose participant is not stored. -/
  | answerWithoutParticipant
  /-- A second answer of a participant at one state. -/
  | answerRepeated
  /-- A text column was given the character U+0000. -/
  | nulInText
  /-- A JSON column was given a text with the character U+0000. -/
  | nulInJson
  deriving DecidableEq

def DatabaseFault.message : DatabaseFault → String
  | .injected => "injected failure"
  | .participantWithoutBot =>
    "insert or update on table \"participants\" violates foreign key constraint " ++
      "\"participants_bot_id_fkey\""
  | .answerWithoutParticipant =>
    "insert or update on table \"answers\" violates foreign key constraint " ++
      "\"answers_bot_id_user_id_fkey\""
  | .answerRepeated => "duplicate key value violates unique constraint \"answers_pkey\""
  | .nulInText => "invalid byte sequence for encoding \"UTF8\": 0x00"
  | .nulInJson => "unsupported Unicode escape sequence"

/-- What a store answers when it cannot do its work. -/
inductive StoreFault
  | refused
  | database (fault : DatabaseFault)
  | unknownStatus (name : String)
  | stateOutOfRange (value : Int)
  /-- A stored script that is no script document. -/
  | malformedScript
  | other (text : String)
  deriving DecidableEq

def StoreFault.message : StoreFault → String
  | .refused => "connection refused"
  | .database fault => "error returned from database: " ++ fault.message
  | .unknownStatus name => "unknown bot status " ++ Text.quoted name
  | .stateOutOfRange value => "state " ++ toString value ++ " out of range"
  | .malformedScript => "malformed script document"
  | .other text => text

/-- What the bus answers when it cannot take or give an envelope. -/
inductive BusError
  | closed
  /-- A payload that is no envelope of its topic. -/
  | serialization
  | unknownTopic (name : String)
  | database (fault : DatabaseFault)
  deriving DecidableEq

/-- The name of a kind of error. -/
def BusError.kind : BusError → String
  | .closed => "Closed"
  | .serialization => "Serialization"
  | .unknownTopic _ => "UnknownTopic"
  | .database _ => "Database"

def BusError.message : BusError → String
  | .closed => "bus closed"
  | .serialization => "serialization error"
  | .unknownTopic name => "unknown topic: " ++ name
  | .database fault => "database error: error returned from database: " ++ fault.message

/-- Errors of the engine. -/
inductive Error
  | invalidInput (fault : InputFault)
  | blockNotFound (state : State)
  | blockDuplicated (state : State)
  | entryDuplicated (key : String)
  | unusedBlock (state : State)
  | cycleDetected (state : State)
  | entryNotFound (key : String)
  | mailingNotFound (name : String)
  | mailingDuplicated (name : String)
  | runawayScript (state : State)
  | botNotFound (bot : Uuid)
  | botAlreadyExists (bot : Uuid)
  | participantNotFound (address : Address)
  | permissionDenied (bot : Uuid)
  | infrastructure (fault : StoreFault)
  | publish (reason : String)
  deriving DecidableEq

namespace Error

/-- The name of a kind of error. -/
def kind : Error → String
  | .invalidInput _ => "InvalidInput"
  | .blockNotFound _ => "BlockNotFound"
  | .blockDuplicated _ => "BlockDuplicated"
  | .entryDuplicated _ => "EntryDuplicated"
  | .unusedBlock _ => "UnusedBlock"
  | .cycleDetected _ => "CycleDetected"
  | .entryNotFound _ => "EntryNotFound"
  | .mailingNotFound _ => "MailingNotFound"
  | .mailingDuplicated _ => "MailingDuplicated"
  | .runawayScript _ => "RunawayScript"
  | .botNotFound _ => "BotNotFound"
  | .botAlreadyExists _ => "BotAlreadyExists"
  | .participantNotFound _ => "ParticipantNotFound"
  | .permissionDenied _ => "PermissionDenied"
  | .infrastructure _ => "Infrastructure"
  | .publish _ => "Publish"

def message : Error → String
  | .invalidInput fault => "invalid input: " ++ fault.message
  | .blockNotFound s => "block not found: state " ++ toString s
  | .blockDuplicated s => "block duplicated: state " ++ toString s
  | .entryDuplicated key => "entry point duplicated: key " ++ Text.quoted key
  | .unusedBlock s =>
    "unused block: state " ++ toString s ++ " is not reachable from any entry point"
  | .cycleDetected s => "cycle detected: state " ++ toString s ++ " is reachable from itself"
  | .entryNotFound key => "entry point not found: key " ++ Text.quoted key
  | .mailingNotFound name => "mailing not found: " ++ Text.quoted name
  | .mailingDuplicated name => "mailing duplicated: " ++ Text.quoted name
  | .runawayScript s =>
    "runaway script: message block " ++ toString s ++ " was revisited during auto-advance"
  | .botNotFound bot => "bot not found: " ++ bot.toText
  | .botAlreadyExists bot => "bot already exists: " ++ bot.toText
  | .participantNotFound a =>
    "participant not found: bot " ++ a.bot.toText ++ ", user " ++ toString a.user
  | .permissionDenied bot => "permission denied on bot " ++ bot.toText
  | .infrastructure fault => "infrastructure error: " ++ fault.message
  | .publish reason => "publish error: " ++ reason

/-- Whether the error finds fault with the graph of a script. -/
def isScriptError : Error → Bool
  | .blockNotFound _ | .blockDuplicated _ | .entryDuplicated _ | .unusedBlock _
  | .cycleDetected _ => true
  | _ => false

/-- The error of a publish that the bus refused. -/
def ofBus (e : BusError) : Error := .publish e.message

end Error

end ScriptedChat
