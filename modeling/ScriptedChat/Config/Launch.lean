import ScriptedChat.Config.Basic

/-!
A server is put together from its configuration. It connects to the database if it has a
connection string, whatever the backends are, and each backend in the database is then given the
connection. Batches go to the bus directly or through an outbox, which a task flushes at the
configured period.
-/
namespace ScriptedChat

/-- Why a server is not put together. -/
inductive LaunchFault (ε : Type)
  /-- The database could not be connected to. -/
  | connection (error : ε)
  | config (error : ConfigError)
  deriving DecidableEq

/-- What a server is made of, over the connections to a database. Stores and a bus without a
connection are in memory. -/
structure Server (π : Type) where
  stores : Option π
  bus : Option π
  /-- The period at which the outbox is flushed, if there is an outbox. -/
  flushEvery : Option Nat
  deriving DecidableEq

namespace Server

variable {π ε : Type}

/-- Connects to the database if there is a connection string. -/
def openPool (connect : String → Except ε π) :
    Option String → Except (LaunchFault ε) (Option π)
  | some url => ((connect url).map some).mapError .connection
  | none => .ok none

/-- The connection of a backend. It has to be there for a backend in the database. -/
def connectionOf (pool : Option π) : Backend → Except (LaunchFault ε) (Option π)
  | .memory => .ok none
  | .postgres =>
    match pool with
    | some connection => .ok (some connection)
    | none => .error (.config .missingDatabase)

def launch (connect : String → Except ε π) (config : ApiConfig) :
    Except (LaunchFault ε) (Server π) := do
  let pool ← openPool connect config.databaseUrl
  let stores ← connectionOf pool config.storage
  let bus ← connectionOf pool config.bus
  let flushEvery :=
    match config.publishMode with
    | .direct => none
    | .outbox => some config.flushInterval
  return ⟨stores, bus, flushEvery⟩

end Server

end ScriptedChat
