import ScriptedChat.Channel.Dispatcher
import ScriptedChat.Proofs.Channel.Sessions

/-!
The course of a dispatcher. It goes in rounds: a delivery is taken, handled and acknowledged, and
only then is the next one asked for. A run ends when it is told to, when there are no more
deliveries, or when the bus fails to hand one out or to take an acknowledgement; all that was taken
has been handled by then. The stops at the end are handled like stops that come from the bus.
-/
namespace ScriptedChat

open ScriptedChat.Action

/-- One thing that a dispatcher does, with the answer of the bus where the bus is asked. -/
inductive Deed
  | ask (answer : Except BusError (Option Delivery))
  | handle (e : Envelope)
  | acknowledge (id : Int) (answer : Except BusError Unit)

def Deed.envelope? : Deed → Option Envelope
  | .ask _ => none
  | .handle e => some e
  | .acknowledge _ _ => none

/-- A round of a dispatcher: a delivery is taken, handled and acknowledged. -/
def Delivery.round (d : Delivery) (answer : Except BusError Unit) : List Deed :=
  [.ask (.ok (some d)), .handle d.envelope, .acknowledge d.id answer]

/-- How a dispatcher comes to take no more deliveries. -/
inductive Ending
  /-- It was told to end. -/
  | told
  /-- There were no more. -/
  | drained
  /-- The bus failed to hand out the next one. -/
  | failed (e : BusError)
  /-- The bus failed to take an acknowledgement. -/
  | unacknowledged (d : Delivery) (e : BusError)

namespace Ending

def deeds : Ending → List Deed
  | .told => []
  | .drained => [.ask (.ok none)]
  | .failed e => [.ask (.error e)]
  | .unacknowledged d e => d.round (.error e)

/-- The delivery that was handled in the last round but stays unacknowledged. -/
def delivery? : Ending → Option Delivery
  | .told => none
  | .drained => none
  | .failed _ => none
  | .unacknowledged d _ => some d

def outcome : Ending → Except AdapterError Unit
  | .told => .ok ()
  | .drained => .ok ()
  | .failed e => .error (.bus e)
  | .unacknowledged _ e => .error (.bus e)

end Ending

/-- The deliveries that a dispatcher handled and acknowledged, and how it came to its end. -/
structure Course where
  acknowledged : List Delivery
  ending : Ending

namespace Course

def deeds (c : Course) : List Deed :=
  c.acknowledged.flatMap (Delivery.round · (.ok ())) ++ c.ending.deeds

/-- The envelopes that were taken from the bus. -/
def taken (c : Course) : List Envelope :=
  (c.acknowledged ++ c.ending.delivery?.toList).map Delivery.envelope

theorem deeds_envelopes (c : Course) : c.deeds.filterMap Deed.envelope? = c.taken := by
  obtain ⟨acknowledged, ending⟩ := c
  induction acknowledged with
  | nil => cases ending <;> rfl
  | cons x rest ih =>
    have hround : (x.round (.ok ())).filterMap Deed.envelope? = [x.envelope] := rfl
    rw [deeds, List.flatMap_cons, List.append_assoc, List.filterMap_append, hround]
    exact congrArg (List.cons x.envelope) ih

end Course

namespace Adapter

variable {platform : Platform}

/-- The orders that end every session. -/
def closing (a : Adapter) : List Envelope :=
  a.runners.keys.map fun bot => .lifecycle ⟨bot, .stop, none⟩

theorem run_stops (platform : Platform) (bots : List String) (a : Adapter) :
    (bots.forM fun bot => attempt (stop platform bot)).run a =
      ((), (bots.map fun bot => .lifecycle ⟨bot, .stop, none⟩).foldl (handled platform) a) := by
  induction bots generalizing a with
  | nil => rfl
  | cons bot rest ih => exact ih (a.handled platform (.lifecycle ⟨bot, .stop, none⟩))

/-- The sessions end as if each was ordered to. -/
theorem run_stopAll (platform : Platform) (a : Adapter) :
    (stopAll platform).run a = ((), a.closing.foldl (handled platform) a) :=
  run_stops platform a.runners.keys a

end Adapter

namespace Dispatcher

variable {σ : Type} {platform : Platform} {subscriber : Subscriber σ}

/-- Deeds one after the other, each done on what the one before it left. -/
inductive Path (platform : Platform) (subscriber : Subscriber σ) :
    Dispatcher σ → List Deed → Dispatcher σ → Prop
  | nil (d : Dispatcher σ) : Path platform subscriber d [] d
  | ask {d last : Dispatcher σ} {answer : Except BusError (Option Delivery)} {source : σ}
      {rest : List Deed} (hnext : subscriber.next.run d.source = (answer, source))
      (hrest : Path platform subscriber ⟨source, d.adapter⟩ rest last) :
      Path platform subscriber d (.ask answer :: rest) last
  | handle {d last : Dispatcher σ} (e : Envelope) {rest : List Deed}
      (hrest : Path platform subscriber ⟨d.source, d.adapter.handled platform e⟩ rest last) :
      Path platform subscriber d (.handle e :: rest) last
  | acknowledge {d last : Dispatcher σ} {id : Int} {answer : Except BusError Unit} {source : σ}
      {rest : List Deed} (hack : (subscriber.ack id).run d.source = (answer, source))
      (hrest : Path platform subscriber ⟨source, d.adapter⟩ rest last) :
      Path platform subscriber d (.acknowledge id answer :: rest) last

theorem exec_onBus {α : Type} (m : StateM σ (Except BusError α)) (d : Dispatcher σ) :
    exec (onBus m) d =
      ((m.run d.source).1.mapError AdapterError.bus, ⟨(m.run d.source).2, d.adapter⟩) := rfl

theorem exec_handle (platform : Platform) (e : Envelope) (d : Dispatcher σ) :
    exec (ExceptT.lift (handle platform e) : ExceptT AdapterError _ _) d =
      (.ok (), ⟨d.source, d.adapter.handled platform e⟩) := rfl

theorem Path.round {d last : Dispatcher σ} {x : Delivery} {source source' : σ}
    {answer : Except BusError Unit} {rest : List Deed}
    (hnext : subscriber.next.run d.source = (.ok (some x), source))
    (hack : (subscriber.ack x.id).run source = (answer, source'))
    (hrest : Path platform subscriber ⟨source', d.adapter.handled platform x.envelope⟩ rest last) :
    Path platform subscriber d (x.round answer ++ rest) last :=
  .ask hnext (.handle x.envelope (.acknowledge hack hrest))

/-- A dispatcher goes in rounds until it comes to an end. Unless it is told to, it does not end for
another reason than that there are no more deliveries or that the bus fails. -/
theorem consume_course (platform : Platform) (subscriber : Subscriber σ) (fuel : Nat)
    (d : Dispatcher σ) :
    ∃ (c : Course) (last : Dispatcher σ),
      exec (consume platform subscriber fuel) d = (c.ending.outcome, last) ∧
      Path platform subscriber d c.deeds last ∧
      (c.ending = .told → c.acknowledged.length = fuel) := by
  induction fuel generalizing d with
  | zero => exact ⟨⟨[], .told⟩, d, rfl, .nil d, fun _ => rfl⟩
  | succ fuel ih =>
    rw [consume, exec_bind, exec_onBus]
    rcases hnext : subscriber.next.run d.source with ⟨answer, source⟩
    cases answer with
    | error e =>
      exact ⟨⟨[], .failed e⟩, ⟨source, d.adapter⟩, rfl, .ask hnext (.nil _), fun h => by cases h⟩
    | ok next =>
      cases next with
      | none =>
        exact ⟨⟨[], .drained⟩, ⟨source, d.adapter⟩, rfl, .ask hnext (.nil _), fun h => by cases h⟩
      | some x =>
        simp only [Outcome.mapError_ok, exec_bind, exec_handle, exec_onBus]
        rcases hack : (subscriber.ack x.id).run source with ⟨answer, source'⟩
        cases answer with
        | error e =>
          exact ⟨⟨[], .unacknowledged x e⟩, _, rfl, .round hnext hack (.nil _),
            fun h => by cases h⟩
        | ok done =>
          -- Only an acknowledgement that was taken is followed by the rest of the course.
          obtain ⟨c, last, hexec, hpath, htold⟩ :=
            ih ⟨source', d.adapter.handled platform x.envelope⟩
          refine ⟨⟨x :: c.acknowledged, c.ending⟩, last, hexec, ?_, ?_⟩
          · rw [Course.deeds, List.flatMap_cons, List.append_assoc]
            exact .round hnext hack hpath
          · intro h
            rw [List.length_cons, htold h]

/-- Only the handling of envelopes touches the adapter. -/
theorem Path.adapter {d last : Dispatcher σ} {deeds : List Deed}
    (h : Path platform subscriber d deeds last) :
    last.adapter =
      (deeds.filterMap Deed.envelope?).foldl (Adapter.handled platform) d.adapter := by
  induction h with
  | nil => rfl
  | ask _ _ ih => exact ih
  | handle e _ ih => exact ih
  | acknowledge _ _ ih => exact ih

theorem run_of_consume {fuel : Nat} {d last : Dispatcher σ} {outcome : Except AdapterError Unit}
    (h : exec (consume platform subscriber fuel) d = (outcome, last)) :
    (run platform subscriber fuel).run d =
      (outcome,
        ⟨last.source, last.adapter.closing.foldl (Adapter.handled platform) last.adapter⟩) := by
  have hstops : (adapterPart.lift (Adapter.stopAll platform)).run last =
      ((), ⟨last.source, ((Adapter.stopAll platform).run last.adapter).2⟩) := rfl
  rw [Adapter.run_stopAll] at hstops
  rw [exec] at h
  rw [run, StateT.run_bind, h]
  exact congrArg (fun after => (outcome, after.2)) hstops

/-- A run is a course to its end and then the stops of the sessions that are left. -/
theorem run_course (platform : Platform) (subscriber : Subscriber σ) (fuel : Nat)
    (d : Dispatcher σ) :
    ∃ (c : Course) (last : Dispatcher σ),
      (run platform subscriber fuel).run d =
        (c.ending.outcome,
          ⟨last.source, (c.taken ++ last.adapter.closing).foldl (Adapter.handled platform)
            d.adapter⟩) ∧
      Path platform subscriber d c.deeds last ∧
      (c.ending = .told → c.acknowledged.length = fuel) := by
  obtain ⟨c, last, hexec, hpath, htold⟩ := consume_course platform subscriber fuel d
  have hconsumed : last.adapter = c.taken.foldl (Adapter.handled platform) d.adapter := by
    rw [hpath.adapter, c.deeds_envelopes]
  refine ⟨c, last, ?_, hpath, htold⟩
  rw [run_of_consume hexec, List.foldl_append, ← hconsumed]

end Dispatcher

end ScriptedChat
