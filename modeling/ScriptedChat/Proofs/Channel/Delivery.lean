import ScriptedChat.Proofs.Channel.Handlings
import ScriptedChat.Proofs.Channel.Moves

/-!
Every user gets every message once and in order. On a steady line, what was handled so far
together with what still waits holds for each user the messages that the steps of the engine
produced, in the order of the steps. So what was handled is always a beginning of what was
produced, and all of it once nothing waits. Of the messages that were handled the platform is sent
those whose bots had a session, whatever became of the others.
-/
namespace ScriptedChat

/-- The messages for a user that were handled. -/
def received (address : Address) (trace : List Handling) : List Message :=
  (trace.map Handling.envelope).filterMap (Envelope.messageFor address)

namespace Line

section Traces

variable {π : Type} (platform : Platform) (line : Line π)

/-- The envelopes that wait before a move and not after it. -/
def taken (world : Memory × π) (m : Move) : List Envelope :=
  let before := (line.dispatcher.get world.2).waiting
  let after := (line.dispatcher.get (line.move platform world m).2).waiting
  before.take (before.length - after.length)

/-- What the adapter handles along a run. -/
def trace (world : Memory × π) (moves : List Move) : List Handling :=
  line.notes platform
    (fun world m => Adapter.handlings platform (line.dispatcher.get world.2).adapter
      (line.taken platform world m)) world moves

theorem trace_concat (world : Memory × π) (moves : List Move) (last : Move) :
    line.trace platform world (moves ++ [last]) =
      line.trace platform world moves ++
        Adapter.handlings platform
          (line.dispatcher.get (line.run platform world moves).2).adapter
          (line.taken platform (line.run platform world moves) last) := by
  rw [trace, notes_concat]
  rfl

end Traces

end Line

/-- What was handled and what waits, beside the steps that the engine took. -/
structure Accounted (platform : Platform) (steps : List Step) (trace : List Handling)
    (d : Dispatcher Queue) : Prop where
  trace_eq : trace = Adapter.handlings platform {} (trace.map Handling.envelope)
  adapter_eq : d.adapter = (trace.map Handling.envelope).foldl (Adapter.handled platform) {}
  produced : ∀ address, received address trace ++
    d.waiting.filterMap (Envelope.messageFor address) = steps.flatMap (Step.produced address)

namespace Accounted

variable {platform : Platform} {steps : List Step} {trace : List Handling}
  {d : Dispatcher Queue}

/-- A step whose messages come to wait. -/
theorem posted (h : Accounted platform steps trace d) {step : Step} {es : List Envelope}
    (hes : ∀ address, es.filterMap (Envelope.messageFor address) = step.produced address) :
    Accounted platform (steps ++ [step]) trace (d.posted es) where
  trace_eq := h.trace_eq
  adapter_eq := h.adapter_eq
  produced address := by
    rw [Dispatcher.waiting_posted, List.filterMap_append, hes, ← List.append_assoc, h.produced]
    simp

/-- Some of what waits is handled. -/
theorem advanced (h : Accounted platform steps trace d) (n : Nat) :
    Accounted platform steps (trace ++ Adapter.handlings platform d.adapter (d.waiting.take n))
      (d.advanced platform n) where
  trace_eq := by
    rw [List.map_append, Adapter.handlings_envelopes, Adapter.handlings_append, ← h.trace_eq,
      ← h.adapter_eq]
  adapter_eq := by
    rw [List.map_append, Adapter.handlings_envelopes, List.foldl_append, ← h.adapter_eq]
    rfl
  produced address := by
    rw [received, List.map_append, List.filterMap_append, Adapter.handlings_envelopes,
      Dispatcher.waiting_advanced, List.append_assoc, ← List.filterMap_append,
      List.take_append_drop]
    exact h.produced address

end Accounted

namespace Line

variable {π : Type} {platform : Platform} {line : Line π} {ready : π → Prop}

theorem taken_command (hc : line.Carries ready) {world : Memory × π} (hw : ready world.2)
    (request : Engine.Occasion) : line.taken platform world (.command request) = [] := by
  obtain ⟨_, _, es, hes, _⟩ := hc.command platform hw request rfl
  rw [taken, hes, Dispatcher.waiting_posted, List.length_append]
  have hnone : (line.dispatcher.get world.2).waiting.length -
      ((line.dispatcher.get world.2).waiting.length + es.length) = 0 := by
    omega
  rw [hnone, List.take_zero]

theorem taken_consume (hc : line.Carries ready) {world : Memory × π} (hw : ready world.2)
    (most : Nat) :
    line.taken platform world (.consume most) =
      (line.dispatcher.get world.2).waiting.take most := by
  rw [taken, (hc.consume platform hw most).2, Dispatcher.waiting_advanced, List.length_drop]
  generalize (line.dispatcher.get world.2).waiting = waiting
  have hcount : waiting.length - (waiting.length - most) = min most waiting.length := by
    omega
  rw [hcount]
  exact (List.take_eq_take_min ..).symm

/-- Along a run on a reliable line the books are kept. -/
theorem run_accounted (hc : line.Carries ready) (hok : line.Reliable ready)
    (start : Memory × π) (hready : ready start.2)
    (hstart : Accounted platform [] [] (line.dispatcher.get start.2)) (moves : List Move) :
    ready (line.run platform start moves).2 ∧
      Accounted platform (line.history platform start moves) (line.trace platform start moves)
        (line.dispatcher.get (line.run platform start moves).2) := by
  induction moves using List.reverseRecOn with
  | nil => exact ⟨hready, hstart⟩
  | append_singleton moves last ih =>
    rw [history, notes_concat, ← history, trace_concat, run_concat]
    generalize line.run platform start moves = world at ih ⊢
    obtain ⟨hready, haccounted⟩ := ih
    cases last with
    | command request =>
      obtain ⟨_, hready', es, hes, _, hproduced⟩ := hc.command platform hready request rfl
      refine ⟨hready', ?_⟩
      rw [taken_command hc hready, hes, Adapter.handlings, List.append_nil]
      exact haccounted.posted (hproduced hok)
    | consume most =>
      obtain ⟨hready', hget⟩ := hc.consume platform hready most
      refine ⟨hready', ?_⟩
      rw [taken_consume hc hready, hget, steps, List.append_nil]
      exact haccounted.advanced most

end Line

/-- What the users of all bots get, as the steps of the engine, the envelopes that were handled and
the dispatcher show it. -/
structure Delivered (platform : Platform) (steps : List Step) (trace : List Handling)
    (d : Dispatcher Queue) : Prop where
  inOrder : ∀ address, received address trace <+: steps.flatMap (Step.produced address)
  complete : d.waiting = [] →
    ∀ address, received address trace = steps.flatMap (Step.produced address)
  /-- The trace is how the adapter came to be what it is. -/
  handled : trace = Adapter.handlings platform {} (trace.map Handling.envelope) ∧
    d.adapter = (trace.map Handling.envelope).foldl (Adapter.handled platform) {}
  sent : d.adapter.calls.filter Call.isSend = trace.filterMap Handling.sending
  running : ∀ h ∈ trace, ∀ m, h.envelope = .message m →
    h.sending.isSome = h.before.isRunning m.bot
  /-- Nothing but the call remains of a message, whether or not the platform took it. -/
  frame : ∀ h ∈ trace, ∀ m, h.envelope = .message m →
    h.before.handled platform h.envelope =
      { h.before with calls := h.before.calls ++ h.sending.toList }
  /-- Without a message the others would have been sent just the same. -/
  others : ∀ earlier h later m, trace = earlier ++ h :: later → h.envelope = .message m →
    h.sending = none ∨ platform.Impartial →
      (Adapter.handlings platform {} ((earlier ++ later).map Handling.envelope)).filterMap
          Handling.sending =
        earlier.filterMap Handling.sending ++ later.filterMap Handling.sending

namespace Accounted

variable {platform : Platform} {steps : List Step} {trace : List Handling}
  {d : Dispatcher Queue}

/-- A trace that is cut in two. -/
theorem trace_append {earlier later : List Handling}
    (h : Accounted platform steps (earlier ++ later) d) :
    earlier = Adapter.handlings platform {} (earlier.map Handling.envelope) ∧
      later = Adapter.handlings platform
        ((earlier.map Handling.envelope).foldl (Adapter.handled platform) {})
        (later.map Handling.envelope) := by
  have htrace := h.trace_eq
  rw [List.map_append, Adapter.handlings_append] at htrace
  refine List.append_inj htrace ?_
  have hlength := congrArg List.length
    (Adapter.handlings_envelopes platform {} (earlier.map Handling.envelope))
  rw [List.length_map, List.length_map] at hlength
  exact hlength.symm

/-- A message leaves an adapter that sends the same messages from then on. -/
theorem sendings_later {earlier later : List Handling} {x : Handling} {m : OutboundMessage}
    (h : Accounted platform steps (earlier ++ x :: later) d) (hx : x.envelope = .message m)
    (hothers : x.sending = none ∨ platform.Impartial) :
    (Adapter.handlings platform {} ((earlier ++ later).map Handling.envelope)).filterMap
        Handling.sending =
      earlier.filterMap Handling.sending ++ later.filterMap Handling.sending := by
  obtain ⟨hearlier, hlater⟩ := h.trace_append
  obtain ⟨before, e⟩ := x
  have hx : e = .message m := hx
  subst hx
  rw [List.map_append, Adapter.handlings_append, List.filterMap_append, ← hearlier]
  rw [List.map_cons, Adapter.handlings, List.cons.injEq, Handling.mk.injEq] at hlater
  obtain ⟨⟨hbefore, _⟩, hlater⟩ := hlater
  rw [← hbefore] at hlater ⊢
  congr 1
  rcases hothers with hnone | himpartial
  · have hsame : before.handled platform (.message m) = before := by
      have hsending : before.sending m = none := hnone
      rw [Adapter.handled_message, hsending, Option.toList_none, List.append_nil]
    rw [hsame] at hlater
    rw [← hlater]
  · have hsame := Adapter.Alike.after_message platform before m
    rw [hsame.symm.sendings himpartial, ← hlater]

theorem delivered (h : Accounted platform steps trace d) : Delivered platform steps trace d where
  inOrder address := ⟨_, h.produced address⟩
  complete hdrained address := by
    have hproduced := h.produced address
    rwa [hdrained, List.filterMap_nil, List.append_nil] at hproduced
  handled := ⟨h.trace_eq, h.adapter_eq⟩
  sent := by
    rw [h.adapter_eq, Adapter.sends_foldl_handled, ← h.trace_eq]
    rfl
  running x _ m hx := by
    rw [Handling.sending, hx]
    exact Adapter.sending_isSome x.before m
  frame x _ m hx := by
    rw [Handling.sending, hx]
    exact Adapter.handled_message platform x.before m
  others earlier x later m htrace hx := by
    subst htrace
    exact h.sendings_later hx

end Accounted

/-- On a steady line, with or without an outbox, every user is delivered what the steps of the
engine produced. -/
theorem Line.messages_delivered (hasOutbox : Bool) (platform : Platform) (moves : List Move) :
    Delivered platform ((steady hasOutbox).history platform calm moves)
      ((steady hasOutbox).trace platform calm moves)
      ((steady hasOutbox).run platform calm moves).2.inner := by
  have hstart : Accounted platform [] [] calm.2.inner := ⟨rfl, rfl, fun _ => rfl⟩
  obtain ⟨_, haccounted⟩ := run_accounted (steady_carries hasOutbox) (steady_reliable hasOutbox)
    calm ⟨rfl, rfl⟩ hstart moves
  exact haccounted.delivered

/-- A user enters before the bot has a session and answers after it, and a second message waits. -/
example :
    let platform : Platform := ⟨fun _ _ => none⟩
    let draft : BotDraft := ⟨⟨1⟩, 5, "Shop", "token", [⟨"start", 1⟩],
      [⟨1, 2, "Name", "Who are you?", .question⟩, ⟨2, 1, "Age", "How old are you?", .question⟩]⟩
    let command : Command → Move := fun c => .command ⟨.flat, ⟨⟨0⟩, .permissive⟩, c⟩
    let moves : List Move := [command (.createBot draft),
      command (.enter ⟨⟨1⟩, 7⟩ "start"), command (.startBot ⟨1⟩ 5),
      command (.process ⟨⟨1⟩, 7⟩ "Ann"), .consume 3,
      command (.process ⟨⟨1⟩, 7⟩ "41")]
    let line := Line.steady true
    received ⟨⟨1⟩, 7⟩ (line.trace platform Line.calm moves) =
        [⟨"Who are you?", []⟩, ⟨"How old are you?", []⟩] ∧
      (line.run platform Line.calm moves).2.inner.adapter.calls =
        [.openSession (Uuid.toText ⟨1⟩) "token", .send "token" 7 "How old are you?" []] := by
  decide +kernel

end ScriptedChat
