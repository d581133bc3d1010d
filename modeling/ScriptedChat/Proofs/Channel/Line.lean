import ScriptedChat.Bus.Outbox
import ScriptedChat.Channel.Process
import ScriptedChat.Proofs.Channel.Rounds
import ScriptedChat.Proofs.Engine.World

/-!
The way from an engine to an adapter in the same process. A batch that is published comes to wait
behind what waits already, and the dispatcher handles what waits from the front, so the adapter
sees all envelopes in the order of their publishes. With an outbox or without, no publish fails as
long as the subscriber stays; on an unreliable line the publishes fail that are told to, and then
the dispatcher gets nothing.
-/
namespace ScriptedChat

open ScriptedChat.Action

theorem Queue.number_envelopes (first : Int) (batch : List Envelope) :
    (Queue.number first batch).map Delivery.envelope = batch := by
  induction batch generalizing first with
  | nil => rfl
  | cons e rest ih => simp [Queue.number, ih]

theorem Queue.number_append (first : Int) (batch more : List Envelope) :
    Queue.number first (batch ++ more) =
      Queue.number first batch ++ Queue.number (first + batch.length) more := by
  induction batch generalizing first with
  | nil => simp [Queue.number]
  | cons e rest ih =>
    have hnext : first + 1 + (rest.length : Int) = first + ((e :: rest).length : Nat) := by
      rw [List.length_cons]
      omega
    simp [Queue.number, ih, hnext]

namespace Dispatcher

variable {platform : Platform}

/-- The envelopes that wait. -/
def waiting (d : Dispatcher Queue) : List Envelope := d.source.waiting.map Delivery.envelope

/-- The dispatcher after it handled some of what waits. -/
def advanced (platform : Platform) (n : Nat) (d : Dispatcher Queue) : Dispatcher Queue where
  source := { d.source with waiting := d.source.waiting.drop n }
  adapter := (d.waiting.take n).foldl (Adapter.handled platform) d.adapter

theorem waiting_advanced (platform : Platform) (n : Nat) (d : Dispatcher Queue) :
    (d.advanced platform n).waiting = d.waiting.drop n := by
  simp only [waiting, advanced, List.map_drop]

theorem exec_next (d : Dispatcher Queue) :
    exec (onBus Queue.subscriber.next) d =
      match d.source.waiting with
      | [] => (.ok none, d)
      | first :: rest => (.ok (some first), ⟨{ d.source with waiting := rest }, d.adapter⟩) := by
  obtain ⟨⟨waits, nextId, hasPublisher, hasSubscriber⟩, a⟩ := d
  cases waits with
  | nil => rfl
  | cons first rest => rfl

theorem exec_ack (id : Int) (d : Dispatcher Queue) :
    exec (onBus (Queue.subscriber.ack id)) d = (.ok (), d) := rfl

/-- The dispatcher handles what waits in its order and never fails. -/
theorem exec_consume (platform : Platform) (n : Nat) (d : Dispatcher Queue) :
    exec (consume platform Queue.subscriber n) d = (.ok (), d.advanced platform n) := by
  induction n generalizing d with
  | zero => simp [consume, advanced]
  | succ n ih =>
    rw [consume, exec_bind, exec_next]
    obtain ⟨⟨waits, nextId, hasPublisher, hasSubscriber⟩, a⟩ := d
    cases waits with
    | nil => simp [advanced, waiting]
    | cons first rest =>
      simp only [exec_bind, exec_handle, exec_ack, ih]
      simp [advanced, waiting]

/-- The adapter once it has handled all that waits. -/
def settled (platform : Platform) (d : Dispatcher Queue) : Adapter :=
  d.waiting.foldl (Adapter.handled platform) d.adapter

theorem settled_advanced (platform : Platform) (n : Nat) (d : Dispatcher Queue) :
    (d.advanced platform n).settled platform = d.settled platform := by
  rw [settled, settled, waiting_advanced, advanced, ← List.foldl_append, List.take_append_drop]

theorem settled_of_drained (platform : Platform) {d : Dispatcher Queue}
    (h : d.source.waiting = []) : d.settled platform = d.adapter := by
  simp [settled, waiting, h]

/-- The dispatcher with a batch behind what waits. -/
def posted (batch : List Envelope) (d : Dispatcher Queue) : Dispatcher Queue where
  source := { d.source with
    waiting := d.source.waiting ++ Queue.number d.source.nextId batch
    nextId := d.source.nextId + batch.length }
  adapter := d.adapter

theorem waiting_posted (batch : List Envelope) (d : Dispatcher Queue) :
    (d.posted batch).waiting = d.waiting ++ batch := by
  simp [waiting, posted, Queue.number_envelopes]

theorem settled_posted (platform : Platform) (batch : List Envelope) (d : Dispatcher Queue) :
    (d.posted batch).settled platform =
      batch.foldl (Adapter.handled platform) (d.settled platform) := by
  rw [settled, settled, waiting_posted, List.foldl_append]
  rfl

theorem posted_nil (d : Dispatcher Queue) : d.posted [] = d := by
  simp [posted, Queue.number]

theorem posted_append (batch more : List Envelope) (d : Dispatcher Queue) :
    (d.posted batch).posted more = d.posted (batch ++ more) := by
  have hnext : d.source.nextId + (batch.length : Int) + (more.length : Int) =
      d.source.nextId + ((batch ++ more).length : Nat) := by
    rw [List.length_append]
    omega
  simp only [posted, Queue.number_append, List.append_assoc, hnext]

theorem run_publish {d : Dispatcher Queue} (h : d.source.hasSubscriber = true)
    (batch : List Envelope) : (publish batch).run d = (.ok (), d.posted batch) := by
  obtain ⟨⟨waits, nextId, hasPublisher, hasSubscriber⟩, a⟩ := d
  cases h
  cases batch with
  | nil => simp [publish, Publisher.within, Queue.publish, posted, Queue.number]; rfl
  | cons e rest => rfl

end Dispatcher

/-- A publisher of which some publishes fail, as is known beforehand. -/
structure Relay (σ : Type) where
  /-- The number of batches so far. -/
  count : Nat
  behind : σ

namespace Relay

variable {σ : Type}

def behindPart : Part (Relay σ) σ := ⟨behind, fun r s => { r with behind := s }⟩

/-- Hands a batch on, unless it is refused. -/
def publish (outcomes : Nat → Except BusError Unit) (p : Publisher σ) : Publisher (Relay σ) :=
  fun batch => do
    let r ← get
    set { r with count := r.count + 1 }
    match outcomes r.count with
    | .ok () => behindPart.lift (p batch)
    | .error e => return .error e

end Relay

/-- A publisher with the dispatcher that it leads to. -/
structure Line (π : Type) where
  publisher : Publisher π
  dispatcher : Part π (Dispatcher Queue)

namespace Line

/-- A line on which the publishes fail that are told to. -/
def unsteady (outcomes : Nat → Except BusError Unit) : Line (Relay (Dispatcher Queue)) where
  publisher := Relay.publish outcomes Dispatcher.publish
  dispatcher := Relay.behindPart

/-- An engine and an adapter that have nothing to do yet, on an unsteady line. -/
def idle : Memory × Relay (Dispatcher Queue) := ({}, ⟨0, Dispatcher.inProcess⟩)

/-- A line on which no publish fails, with or without an outbox. -/
def steady (hasOutbox : Bool) : Line (Outbox (Dispatcher Queue)) where
  publisher :=
    if hasOutbox then Outbox.publish Dispatcher.publish
    else Publisher.within Outbox.behind Dispatcher.publish
  dispatcher := Outbox.behind

/-- An engine and an adapter that have nothing to do yet, on a steady line. -/
def calm : Memory × Outbox (Dispatcher Queue) := ({}, ⟨[], Dispatcher.inProcess⟩)

variable {π : Type}

/-- What is published on a line gets to the dispatcher whole, or not at all. -/
structure Carries (line : Line π) (ready : π → Prop) : Prop where
  get_set : ∀ w d, line.dispatcher.get (line.dispatcher.set w d) = d
  ready_set : ∀ w d, ready w →
    d.source.hasSubscriber = (line.dispatcher.get w).source.hasSubscriber →
      ready (line.dispatcher.set w d)
  ready_handed : ∀ batch w, ready w → ready (Engine.handed line.publisher batch w)
  taken : ∀ batch w, ready w → Engine.published line.publisher batch w = .ok () →
    line.dispatcher.get (Engine.handed line.publisher batch w) =
      (line.dispatcher.get w).posted batch
  refused : ∀ batch w e, ready w → Engine.published line.publisher batch w = .error e →
    line.dispatcher.get (Engine.handed line.publisher batch w) = line.dispatcher.get w

/-- No publish on a line fails. -/
def Reliable (line : Line π) (ready : π → Prop) : Prop :=
  ∀ batch w, ready w → Engine.published line.publisher batch w = .ok ()

/-- An unsteady line can be used while its subscriber stays. -/
def Listens (w : Relay (Dispatcher Queue)) : Prop := w.behind.source.hasSubscriber = true

theorem run_unsteady (outcomes : Nat → Except BusError Unit) {w : Relay (Dispatcher Queue)}
    (h : Listens w) (batch : List Envelope) :
    ((unsteady outcomes).publisher batch).run w =
      match outcomes w.count with
      | .ok () => (.ok (), ⟨w.count + 1, w.behind.posted batch⟩)
      | .error e => (.error e, ⟨w.count + 1, w.behind⟩) := by
  have hbehind : (Dispatcher.publish batch).run w.behind = (.ok (), w.behind.posted batch) :=
    Dispatcher.run_publish h batch
  cases houtcome : outcomes w.count with
  | error e =>
    show StateT.run (Relay.publish outcomes Dispatcher.publish batch) w = _
    simp [Relay.publish, houtcome]
    rfl
  | ok _ =>
    have hlift : (Relay.behindPart.lift (Dispatcher.publish batch)).run
        (⟨w.count + 1, w.behind⟩ : Relay (Dispatcher Queue)) =
          (.ok (), ⟨w.count + 1, w.behind.posted batch⟩) := by
      simp only [Part.lift, StateT.run, Relay.behindPart] at hbehind ⊢
      rw [hbehind]
    show StateT.run (Relay.publish outcomes Dispatcher.publish batch) w = _
    simp [Relay.publish, houtcome, hlift]

theorem unsteady_carries (outcomes : Nat → Except BusError Unit) :
    (unsteady outcomes).Carries Listens where
  get_set _ _ := rfl
  ready_set w d hw hd := hd.trans hw
  ready_handed batch w hw := by
    rw [Engine.handed, run_unsteady outcomes hw]
    cases outcomes w.count <;> exact hw
  taken batch w hw hpublish := by
    rw [Engine.published, run_unsteady outcomes hw] at hpublish
    rw [Engine.handed, run_unsteady outcomes hw]
    cases houtcome : outcomes w.count with
    | ok _ => rfl
    | error e =>
      rw [houtcome] at hpublish
      cases hpublish
  refused batch w e hw hpublish := by
    rw [Engine.published, run_unsteady outcomes hw] at hpublish
    rw [Engine.handed, run_unsteady outcomes hw]
    cases houtcome : outcomes w.count with
    | ok _ =>
      rw [houtcome] at hpublish
      cases hpublish
    | error e => rfl

/-- Nothing is kept back on a steady line while its subscriber stays. -/
def Flows (w : Outbox (Dispatcher Queue)) : Prop :=
  w.queue = [] ∧ w.inner.source.hasSubscriber = true

theorem run_steady (hasOutbox : Bool) {w : Outbox (Dispatcher Queue)} (h : Flows w)
    (batch : List Envelope) :
    ((steady hasOutbox).publisher batch).run w = (.ok (), ⟨[], w.inner.posted batch⟩) := by
  obtain ⟨queue, d⟩ := w
  obtain ⟨hqueue, hsubscriber⟩ := h
  have hqueue : queue = [] := hqueue
  subst hqueue
  have hbehind : (Dispatcher.publish batch).run d = (.ok (), d.posted batch) :=
    Dispatcher.run_publish hsubscriber batch
  have hlift : ∀ queue, (Outbox.behind.lift (Dispatcher.publish batch)).run
      (⟨queue, d⟩ : Outbox (Dispatcher Queue)) = (.ok (), ⟨queue, d.posted batch⟩) := by
    intro queue
    simp only [Part.lift, StateT.run, Outbox.behind] at hbehind ⊢
    rw [hbehind]
  cases hasOutbox with
  | false => exact hlift []
  | true =>
    show StateT.run (Outbox.publish Dispatcher.publish batch) _ = _
    cases batch with
    | nil =>
      simp [Outbox.publish, Outbox.drain, Dispatcher.posted_nil]
      rfl
    | cons e rest =>
      simp [Outbox.publish, Outbox.drain, hlift]
      rfl

theorem steady_reliable (hasOutbox : Bool) : (steady hasOutbox).Reliable Flows := by
  intro batch w hw
  rw [Engine.published, run_steady hasOutbox hw]
  rfl

theorem steady_carries (hasOutbox : Bool) : (steady hasOutbox).Carries Flows where
  get_set _ _ := rfl
  ready_set w d hw hd := ⟨hw.1, hd.trans hw.2⟩
  ready_handed batch w hw := by
    rw [Engine.handed, run_steady hasOutbox hw]
    exact ⟨rfl, hw.2⟩
  taken batch w hw _ := by
    rw [Engine.handed, run_steady hasOutbox hw]
    rfl
  refused batch w e hw hpublish := by
    rw [steady_reliable hasOutbox batch w hw] at hpublish
    cases hpublish

end Line

end ScriptedChat
