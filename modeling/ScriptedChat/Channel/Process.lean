import ScriptedChat.Bus.Queue
import ScriptedChat.Channel.Dispatcher
import ScriptedChat.Database.Messages

/-!
The two ways in which an adapter is run: inside the process that publishes, behind a queue, and
in a process of its own that reads the bus in the database. Either handles what is there and
then stops the running sessions. A session that the platform refused to open is not running; it
is cancelled only when the adapter is told to end.
-/
namespace ScriptedChat.Dispatcher

/-- An adapter behind an empty queue. -/
def inProcess : Dispatcher Queue := ⟨{}, {}⟩

/-- Handles everything that waits in the queue. -/
def settle (platform : Platform) : StateM (Dispatcher Queue) Unit := do
  let fuel := (← get).source.waiting.length + 1
  let _ ← (consume platform Queue.subscriber fuel).run

/-- Publishes a batch. -/
def publish : Publisher (Dispatcher Queue) := Publisher.within sourcePart Queue.publish

/-- Ends the adapter. When it is told to, every session is cancelled and nothing is taken from
then on; otherwise it ends because its queue has no publisher any more. -/
def finish (platform : Platform) (told : Bool) : StateM (Dispatcher Queue) Unit := do
  if told then
    modify fun d =>
      { d with
        source := { d.source with hasSubscriber := false }
        adapter := d.adapter.shutdown }
  else modify fun d => { d with source := { d.source with hasPublisher := false } }
  adapterPart.lift (Adapter.stopAll platform)

/-- Handles the rows of the bus that were not delivered yet. Once there are no more the adapter is
told to end; a failure of the bus ends it without that. -/
def runRows (platform : Platform) (db : Database) :
    Except AdapterError Unit × Dispatcher RowBus :=
  let bus : RowBus := ⟨{}, db⟩
  let (outcome, d) := run platform RowBus.subscriber (bus.undelivered + 1) ⟨bus, {}⟩
  match outcome with
  | .ok () => (.ok (), { d with adapter := d.adapter.shutdown })
  | .error e => (.error e, d)

end ScriptedChat.Dispatcher
