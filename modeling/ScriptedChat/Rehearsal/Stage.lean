import ScriptedChat.Bus.Outbox
import ScriptedChat.Bus.Queue
import ScriptedChat.Channel.Adapter
import ScriptedChat.Database.Messages
import ScriptedChat.Database.Participants
import ScriptedChat.Engine.Basic
import ScriptedChat.Store.Memory

/-!
A stage on which the engine is rehearsed: both sorts of stores, a bus that records what it
takes, and mishaps that are told to happen. A plan picks the stores and the bus that the engine
works with; what it leaves aside stays as it is. The stores in memory are laid out flat.
-/
namespace ScriptedChat

structure Stage where
  memory : Memory := {}
  database : Database := {}
  recorder : Recorder := {}
  /-- The operations of the stores that refuse to work. -/
  refused : List StoreOperation := []
  /-- An outdated answer to the next question for the participants of a bot. -/
  outdated : Option (List Participant) := none

namespace Stage

def memoryPart : Part Stage Memory := ⟨memory, fun s m => { s with memory := m }⟩

def databasePart : Part Stage Database := ⟨database, fun s db => { s with database := db }⟩

def recorderPart : Part Stage Recorder := ⟨recorder, fun s r => { s with recorder := r }⟩

/-- The participants of a bot as the stores list them, unless an outdated answer is at hand. -/
def participantsOfBot (stores : Stores Stage) (bot : Uuid) :
    Action Stage (List Participant) := do
  match (← get).outdated with
  | some participants =>
    modify fun s => { s with outdated := none }
    return participants
  | none => stores.participantsOfBot bot

/-- Stores that the mishaps of the stage can befall. An outdated answer is given even where the
operation refuses to work. -/
def unreliable (stores : Stores Stage) : Stores Stage :=
  let refusing := stores.refusing fun s op => s.refused.contains op
  { refusing with participantsOfBot := participantsOfBot refusing }

end Stage

/-- Which stores and which bus an engine works with. -/
structure StagePlan where
  storesInDatabase : Bool
  busInDatabase : Bool
  /-- Whether an outbox stands before the bus. -/
  hasOutbox : Bool

namespace StagePlan

def stores (plan : StagePlan) : Stores Stage :=
  if plan.storesInDatabase then Database.stores.within Stage.databasePart
  else (Memory.stores .flat).within Stage.memoryPart

def bus (plan : StagePlan) : Publisher Stage :=
  if plan.busInDatabase then Publisher.within Stage.databasePart Database.publish
  else Publisher.within Stage.recorderPart Recorder.publish

def publisher (plan : StagePlan) : Publisher (Outbox Stage) :=
  if plan.hasOutbox then Outbox.publish plan.bus else Publisher.within Outbox.behind plan.bus

/-- The engine of a plan. -/
def engine (plan : StagePlan) : Engine (Outbox Stage) :=
  ⟨(Stage.unreliable plan.stores).within Outbox.behind, plan.publisher⟩

end StagePlan

/-- A queue whose acknowledgements are written down, and one of them may be refused. -/
structure WatchedQueue where
  queue : Queue
  refusedAck : Option Int
  acked : List Int := []

namespace WatchedQueue

def queuePart : Part WatchedQueue Queue := ⟨queue, fun w q => { w with queue := q }⟩

def ack (id : Int) : StateM WatchedQueue (Except BusError Unit) := do
  let w ← get
  if w.refusedAck = some id then return .error .closed
  set { w with acked := w.acked ++ [id] }
  return .ok ()

/-- A queue that holds some batches. -/
def holding (batches : List (List Envelope)) (refusedAck : Option Int) : WatchedQueue :=
  ⟨((batches.forM fun batch => discard (Queue.publish batch)).run {}).2, refusedAck, []⟩

def subscriber : Subscriber WatchedQueue := ⟨queuePart.lift Queue.subscriber.next, ack⟩

end WatchedQueue

/-- A platform that refuses calls by their method, or by method and subject. -/
def Platform.refusing (calls : List String) : Platform where
  refusal? _ c :=
    if calls.contains c.method || calls.contains (c.method ++ " " ++ c.subject) then
      some (c.method ++ " refused")
    else none

end ScriptedChat
