import ScriptedChat.Config.SocketAddress
import ScriptedChat.Script.Block
import ScriptedChat.Text.Numeral

/-!
Configuration from named variables. Variables that are not set have defaults, but a database
needs its connection string. The variables are looked at in a fixed order and the first bad
one is named.
-/
namespace ScriptedChat

/-- A variable that is missing or cannot be used. -/
inductive ConfigError
  | missingDatabase
  /-- A variable, what it has to be, and its value. -/
  | badValue (name expected value : String)
  | badAddress
  | badCyclePolicy (error : Error)
  | badPollInterval (fault : Text.NumeralFault)
  deriving DecidableEq

def ConfigError.reason : ConfigError → String
  | .missingDatabase => "DATABASE_URL environment variable must be set"
  | .badValue name expected value =>
    name ++ " must be " ++ expected ++ ", got " ++ Text.quoted value
  | .badAddress => "invalid HOST:PORT combination: invalid socket address syntax"
  | .badCyclePolicy error => "SCRIPT_CYCLE_POLICY: " ++ error.message
  | .badPollInterval fault => "BUS_POLL_INTERVAL_MS must be a number: " ++ fault.message

def ConfigError.message (e : ConfigError) : String := "configuration error: " ++ e.reason

/-- The values of variables. -/
abbrev Variables := String → Option String

/-- Where bots and participants, or the bus, are kept. -/
inductive Backend
  | postgres
  | memory
  deriving DecidableEq

def Backend.name : Backend → String
  | .postgres => "Postgres"
  | .memory => "Memory"

inductive PublishMode
  | direct
  | outbox
  deriving DecidableEq

def PublishMode.name : PublishMode → String
  | .direct => "Direct"
  | .outbox => "Outbox"

/-- The variable's value if it is one of two words; the first is the default. -/
def chooseWord {α : Type} (vars : Variables) (name : String) (first second : String × α) :
    Except ConfigError α :=
  match vars name with
  | none => .ok first.2
  | some word =>
    if word = first.1 then .ok first.2
    else if word = second.1 then .ok second.2
    else
      .error (.badValue name ("\"" ++ first.1 ++ "\" or \"" ++ second.1 ++ "\"") word)

structure ApiConfig where
  databaseUrl : Option String
  address : SocketAddress
  storage : Backend
  bus : Backend
  cycles : CyclePolicy
  publishMode : PublishMode
  /-- The period of the outbox in milliseconds. -/
  flushInterval : Nat
  deriving DecidableEq

namespace ApiConfig

def readAddress (vars : Variables) : Except ConfigError SocketAddress := do
  let host := (vars "HOST").getD "0.0.0.0"
  let port := (vars "PORT").getD "3000"
  match Text.readNat 65535 port with
  | .error _ => throw (.badValue "PORT" "a valid u16" port)
  | .ok port =>
    match SocketAddress.ofText? (host ++ ":" ++ toString port) with
    | some address => return address
    | none => throw .badAddress

def readCycles (vars : Variables) : Except ConfigError CyclePolicy :=
  match vars "SCRIPT_CYCLE_POLICY" with
  | none => .ok .permissive
  | some name => (CyclePolicy.ofName name).mapError .badCyclePolicy

def readFlushInterval (vars : Variables) : Except ConfigError Nat :=
  match vars "OUTBOX_FLUSH_INTERVAL_MS" with
  | none => .ok 1000
  | some text =>
    (Text.readNat (UInt64.size - 1) text).mapError fun _ =>
      .badValue "OUTBOX_FLUSH_INTERVAL_MS" "a number" text

def ofVariables (vars : Variables) : Except ConfigError ApiConfig := do
  let address ← readAddress vars
  let storage ← chooseWord vars "STORAGE_BACKEND" ("postgres", .postgres) ("memory", .memory)
  let bus ← chooseWord vars "BUS_BACKEND" ("postgres", .postgres) ("memory", .memory)
  let publishMode ← chooseWord vars "PUBLISH_MODE" ("direct", .direct) ("outbox", .outbox)
  let cycles ← readCycles vars
  let flushInterval ← readFlushInterval vars
  let databaseUrl := vars "DATABASE_URL"
  if (storage = Backend.postgres ∨ bus = Backend.postgres) ∧ databaseUrl.isNone then
    throw .missingDatabase
  return ⟨databaseUrl, address, storage, bus, cycles, publishMode, flushInterval⟩

end ApiConfig

structure AdapterConfig where
  databaseUrl : String
  /-- How long a subscriber waits without news, in milliseconds. -/
  pollInterval : Nat
  deriving DecidableEq

def AdapterConfig.ofVariables (vars : Variables) : Except ConfigError AdapterConfig := do
  match vars "DATABASE_URL" with
  | none => throw .missingDatabase
  | some databaseUrl =>
    let pollInterval ←
      match vars "BUS_POLL_INTERVAL_MS" with
      | none => pure 500
      | some text => (Text.readNat (UInt64.size - 1) text).mapError .badPollInterval
    return ⟨databaseUrl, pollInterval⟩

end ScriptedChat
