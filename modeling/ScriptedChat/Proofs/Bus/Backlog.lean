import Mathlib.Data.List.Induction
import ScriptedChat.Bus.Outbox
import ScriptedChat.Proofs.Bus.Watching

/-!
The account of an outbox. A batch that is published joins the queue, and the whole queue is offered
to the publisher behind it, which takes all of it or nothing. So what was taken, followed by what is
queued, is at every moment what was published, in that order. A queue is only offered when there is
something in it, and it is gone once it was taken.
-/
namespace ScriptedChat.Outbox

variable {σ : Type}

/-- What an outbox is asked to do. -/
inductive Call
  | publish (batch : List Envelope)
  | flush

/-- What a call adds to the queue. -/
def Call.batch : Call → List Envelope
  | .publish batch => batch
  | .flush => []

/-- What an outbox says when a call is over. -/
inductive Report
  | published (outcome : Except BusError Unit)
  | left (n : Nat)
  deriving DecidableEq

def answer (p : Publisher σ) : Call → StateM (Outbox σ) Report
  | .publish batch => return .published (← publish p batch)
  | .flush => return .left (← flush p)

/-- The outbox after calls one after the other. -/
def after (p : Publisher σ) (o : Outbox σ) (calls : List Call) : Outbox σ :=
  calls.foldl (fun o call => ((answer p call).run o).2) o

theorem after_concat (p : Publisher σ) (o : Outbox σ) (calls : List Call) (call : Call) :
    after p o (calls ++ [call]) = ((answer p call).run (after p o calls)).2 :=
  List.foldl_append

/-- How an outbox that offers its queue may be left. -/
inductive Drains (p : Publisher σ) (o : Outbox σ) : Outbox σ → Prop
  | idle (hempty : o.queue = []) : Drains p o o
  | taken (hqueue : o.queue ≠ []) (hok : ((p o.queue).run o.inner).1 = .ok ()) :
      Drains p o ⟨[], ((p o.queue).run o.inner).2⟩
  | refused (e : BusError) (hqueue : o.queue ≠ [])
      (herror : ((p o.queue).run o.inner).1 = .error e) :
      Drains p o ⟨o.queue, ((p o.queue).run o.inner).2⟩

/-- A queue with something in it is offered to the publisher behind it as one batch. -/
theorem run_drain (p : Publisher σ) {o : Outbox σ} (hqueue : o.queue ≠ []) :
    ((drain p).run o).2 =
      match ((p o.queue).run o.inner).1 with
      | .ok _ => ⟨[], ((p o.queue).run o.inner).2⟩
      | .error _ => ⟨o.queue, ((p o.queue).run o.inner).2⟩ := by
  have hoffered : (behind.lift (p o.queue)).run o =
      (((p o.queue).run o.inner).1, ⟨o.queue, ((p o.queue).run o.inner).2⟩) := rfl
  simp only [drain, StateT.run_bind, StateT.run_get, pure_bind, List.isEmpty_iff, hqueue, if_false,
    hoffered]
  cases ((p o.queue).run o.inner).1 with
  | ok _ => rfl
  | error e => rfl

theorem drains_drain (p : Publisher σ) (o : Outbox σ) : Drains p o ((drain p).run o).2 := by
  by_cases hqueue : o.queue = []
  · have hidle : (drain p).run o = ((), o) := by
      simp only [drain, StateT.run_bind, StateT.run_get, pure_bind, List.isEmpty_iff, hqueue,
        if_true]
      rfl
    rw [hidle]
    exact .idle hqueue
  · rw [run_drain p hqueue]
    cases hoffered : ((p o.queue).run o.inner).1 with
    | ok _ => exact .taken hqueue hoffered
    | error e => exact .refused e hqueue hoffered

/-- Whatever is asked of an outbox, it offers its queue with what the call adds to it. -/
theorem answer_drains (p : Publisher σ) (o : Outbox σ) (call : Call) :
    Drains p { o with queue := o.queue ++ call.batch } ((answer p call).run o).2 := by
  cases call with
  | publish batch => exact drains_drain p { o with queue := o.queue ++ batch }
  | flush =>
    have hsame : { o with queue := o.queue ++ [] } = o := by rw [List.append_nil]
    show Drains p { o with queue := o.queue ++ [] } _
    rw [hsame]
    exact drains_drain p o

/-- A publish never fails, and a flush tells how much is left. -/
theorem answer_report (p : Publisher σ) (o : Outbox σ) (call : Call) :
    ((answer p call).run o).1 =
      match call with
      | .publish _ => .published (.ok ())
      | .flush => .left ((answer p call).run o).2.queue.length := by
  cases call with
  | publish batch => rfl
  | flush => rfl

/-- Offering the queue changes nothing about what was taken and what is queued together. -/
theorem Drains.account {p : Publisher σ} {taken : σ → List Envelope}
    (hp : p.AllOrNothing taken) {o o' : Outbox σ} (h : Drains p o o') :
    taken o'.inner ++ o'.queue = taken o.inner ++ o.queue := by
  cases h with
  | idle => rfl
  | taken _ hok => rw [hp.accepts o.queue o.inner hok, List.append_nil]
  | refused e _ herror => rw [hp.refuses o.queue o.inner e herror]

/-- The queue is offered once at most, never when it is empty, and it is gone if it was taken. -/
theorem Drains.attempts {p : Publisher σ} {o o' : Outbox (σ × List Attempt)}
    (h : Drains p.watched o o') :
    o'.inner.2 = o.inner.2 ∨
      ∃ attempt, o'.inner.2 = o.inner.2 ++ [attempt] ∧ attempt.batch = o.queue ∧
        attempt.batch ≠ [] ∧ (attempt.outcome = .ok () → o'.queue = []) := by
  cases h with
  | idle => exact Or.inl rfl
  | taken hqueue hok => exact Or.inr ⟨⟨o.queue, _⟩, rfl, rfl, hqueue, fun _ => rfl⟩
  | refused e hqueue herror =>
    refine Or.inr ⟨⟨o.queue, _⟩, rfl, rfl, hqueue, ?_⟩
    intro hok
    have hboth : (Except.ok () : Except BusError Unit) = .error e := hok.symm.trans herror
    cases hboth

/-- An outbox to which some envelopes were published, before a publisher that is watched. -/
structure Balanced (taken : σ → List Envelope) (published : List Envelope)
    (o : Outbox (σ × List Attempt)) : Prop where
  account : taken o.inner.1 ++ o.queue = published
  offered : ∀ attempt ∈ o.inner.2, attempt.batch ≠ []

variable {p : Publisher σ} {taken : σ → List Envelope}

theorem Balanced.answer (hp : p.AllOrNothing taken) {published : List Envelope}
    {o : Outbox (σ × List Attempt)} (h : Balanced taken published o) (call : Call) :
    Balanced taken (published ++ call.batch) ((answer p.watched call).run o).2 := by
  have hdrains := answer_drains p.watched o call
  generalize ((Outbox.answer p.watched call).run o).2 = o' at hdrains
  constructor
  · have haccount := hdrains.account hp.watched
    rw [haccount, ← h.account, List.append_assoc]
  · intro attempt hattempt
    rcases hdrains.attempts with hsame | ⟨last, hlast, _, hbatch, _⟩
    · rw [hsame] at hattempt
      exact h.offered attempt hattempt
    · rw [hlast, List.mem_append, List.mem_singleton] at hattempt
      rcases hattempt with hattempt | rfl
      · exact h.offered attempt hattempt
      · exact hbatch

theorem balanced_after (hp : p.AllOrNothing taken) (w : σ) (calls : List Call) :
    Balanced taken (taken w ++ calls.flatMap Call.batch) (after p.watched ⟨[], (w, [])⟩ calls) := by
  induction calls using List.reverseRecOn with
  | nil => exact ⟨rfl, fun attempt h => absurd h List.not_mem_nil⟩
  | append_singleton calls call ih =>
    have hnext := ih.answer hp call
    rw [after_concat, List.flatMap_append, List.flatMap_singleton, ← List.append_assoc]
    exact hnext

/-- Before a publisher that takes a batch whole or not at all, an outbox loses, repeats and reorders
nothing. After any calls the envelopes that were taken, followed by the queue, are those that were
published, in order, and no batch that was offered was empty. Of the next call, a publish succeeds
and a flush tells the length of the queue that is left; the queue is offered once at most, and if it
is taken nothing is left of it. -/
theorem keeps_account (hp : p.AllOrNothing taken) (w : σ) (calls : List Call) (call : Call) :
    let o := after p.watched ⟨[], (w, [])⟩ calls
    let run := (answer p.watched call).run o
    taken o.inner.1 ++ o.queue = taken w ++ calls.flatMap Call.batch ∧
      (∀ attempt ∈ o.inner.2, attempt.batch ≠ []) ∧
      (run.1 = match call with
        | .publish _ => .published (.ok ())
        | .flush => .left run.2.queue.length) ∧
      (run.2.inner.2 = o.inner.2 ∨ ∃ attempt, run.2.inner.2 = o.inner.2 ++ [attempt] ∧
        (attempt.outcome = .ok () → run.2.queue = [])) := by
  intro o run
  have hbalanced := balanced_after hp w calls
  refine ⟨hbalanced.account, hbalanced.offered, answer_report p.watched o call, ?_⟩
  rcases (answer_drains p.watched o call).attempts with hsame | ⟨attempt, hlast, _, _, hempty⟩
  · exact Or.inl hsame
  · exact Or.inr ⟨attempt, hlast, hempty⟩

/-- A batch is offered in vain three times, and is handed on together with the next one. -/
theorem keeps_account_retry :
    let first : Envelope := .lifecycle (.stop ⟨1⟩)
    let second : Envelope := .lifecycle (.stop ⟨2⟩)
    let failing : Recorder := { failing := [0, 1, 2] }
    let calls : List Call := [.publish [first], .publish [], .flush]
    let o := after (Publisher.watched Recorder.publish) ⟨[], (failing, [])⟩ calls
    let run := (answer (Publisher.watched Recorder.publish) (.publish [second])).run o
    Publisher.AllOrNothing Recorder.publish (fun r => r.taken.flatten) ∧
      o.queue = [first] ∧ run.2.inner.1.taken = [[first, second]] ∧
      o.inner.1.taken.flatten ++ o.queue = [first] ∧
      (∀ attempt ∈ o.inner.2, attempt.batch ≠ []) ∧ run.1 = .published (.ok ()) ∧
      (run.2.inner.2 = o.inner.2 ∨ ∃ attempt, run.2.inner.2 = o.inner.2 ++ [attempt] ∧
        (attempt.outcome = .ok () → run.2.queue = [])) := by
  intro first second failing calls o run
  have hqueue : o.queue = [first] := by decide +kernel
  have htaken : run.2.inner.1.taken = [[first, second]] := by decide +kernel
  exact ⟨Recorder.allOrNothing, hqueue, htaken,
    keeps_account Recorder.allOrNothing failing calls (.publish [second])⟩

end ScriptedChat.Outbox
