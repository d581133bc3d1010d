import ScriptedChat.Proofs.Channel.Line
import ScriptedChat.Proofs.Engine.Publishing
import ScriptedChat.Proofs.Report

/-!
Runs of an engine and an adapter that share a line. The engine carries out commands, and the
adapter handles what waits whenever it likes and as much as it likes. Of a command the adapter
gets to see the orders of the step and nothing else but messages; on a line where no publish fails
it gets all messages that the step produced. So the sessions that the adapter will have once it
has caught up follow from the orders alone.
-/
namespace ScriptedChat

open ScriptedChat.Action

/-- One move of an engine and an adapter. -/
inductive Move
  | command (request : Engine.Occasion)
  /-- The adapter handles some of what waits. -/
  | consume (most : Nat)

namespace Sessions

/-- Messages leave the sessions as they are. -/
theorem foldl_after (es : List Envelope) (s : Sessions) :
    es.foldl Sessions.after s = (es.filter Envelope.isOrder).foldl Sessions.after s := by
  induction es generalizing s with
  | nil => rfl
  | cons e rest ih =>
    cases e with
    | message m => exact ih s
    | lifecycle c => exact ih (s.after (.lifecycle c))

/-- A start keeps the session that there is, and otherwise takes the credential that it brings. -/
theorem foldl_starts (bots : List Bot) (s : Sessions) (name : String) :
    ((Engine.starts bots).foldl Sessions.after s) name =
      (s name).or ((bots.find? fun bot => bot.id.toText = name).map Bot.token) := by
  induction bots generalizing s with
  | nil => simp [Engine.starts]
  | cons bot rest ih =>
    rw [Engine.starts, List.map_cons, List.foldl_cons, ← Engine.starts, ih]
    by_cases hname : bot.id.toText = name
    · cases hs : s name <;> simp [Sessions.after, LifecycleCommand.start, hname, hs]
    · simp [Sessions.after, LifecycleCommand.start, hname]

/-- Two starts may change places, unless they bring one bot different credentials. -/
theorem after_start_comm (s : Sessions) {a b : Bot} (h : a.id = b.id → a.token = b.token) :
    (s.after (.lifecycle (.start a.id a.token))).after (.lifecycle (.start b.id b.token)) =
      (s.after (.lifecycle (.start b.id b.token))).after (.lifecycle (.start a.id a.token)) := by
  funext name
  by_cases hab : a.id = b.id
  · rw [hab, h hab]
  · have hnames : a.id.toText ≠ b.id.toText := mt Uuid.toText_injective hab
    by_cases ha : a.id.toText = name
    · have hb : b.id.toText ≠ name := fun hb => hnames (ha.trans hb.symm)
      simp [Sessions.after, LifecycleCommand.start, ha, hb]
    · simp [Sessions.after, LifecycleCommand.start, ha]

end Sessions

/-- The orders of a step do the same to the sessions in whatever order they come. -/
theorem Step.foldl_after_perm (step : Step) {es : List Envelope} (h : es.Perm step.orders)
    (s : Sessions) : es.foldl Sessions.after s = step.orders.foldl Sessions.after s := by
  rcases step.orders_cases with ⟨bots, horders, hstored⟩ | ⟨id, horders⟩
  · refine h.foldl_eq' (fun x hx y hy s => ?_) s
    have hstart : ∀ e ∈ es, ∃ bot ∈ bots, Envelope.lifecycle (.start bot.id bot.token) = e := by
      intro e he
      have hmem := h.mem_iff.1 he
      rw [horders] at hmem
      exact List.mem_map.1 hmem
    obtain ⟨a, ha, rfl⟩ := hstart x hx
    obtain ⟨b, hb, rfl⟩ := hstart y hy
    refine s.after_start_comm fun hid => ?_
    have hget := hstored a ha
    rw [hid, hstored b hb] at hget
    rw [Option.some.inj hget]
  · rw [horders] at h ⊢
    rw [List.perm_singleton.1 h]

namespace Line

variable {π : Type}

section Runs

variable (platform : Platform) (line : Line π)

/-- The world after a move. -/
def move (world : Memory × π) : Move → Memory × π
  | .command request => Engine.carryOut line.publisher world request
  | .consume most =>
    let consumed := exec (Dispatcher.consume platform Queue.subscriber most)
      (line.dispatcher.get world.2)
    (world.1, line.dispatcher.set world.2 consumed.2)

/-- The world after moves. -/
def run (world : Memory × π) (moves : List Move) : Memory × π :=
  moves.foldl (line.move platform) world

/-- The step of the engine that carries out a command. -/
def step (world : Memory × π) (request : Engine.Occasion) : Step :=
  ⟨world.1, request.command,
    (exec ((Engine.inMemory line.publisher request.layout).handle request.setting request.command)
      world).1⟩

/-- The steps of the engine in a move. -/
def steps (world : Memory × π) : Move → List Step
  | .command request => [line.step world request]
  | .consume _ => []

/-- What is noted of each move along a run. -/
def notes {α : Type} (note : Memory × π → Move → List α) : Memory × π → List Move → List α
  | _, [] => []
  | world, first :: rest => note world first ++ notes note (line.move platform world first) rest

/-- The steps of the engine along a run. -/
def history (world : Memory × π) (moves : List Move) : List Step :=
  line.notes platform line.steps world moves

theorem run_concat (world : Memory × π) (moves : List Move) (last : Move) :
    line.run platform world (moves ++ [last]) =
      line.move platform (line.run platform world moves) last := by
  simp [run]

theorem notes_concat {α : Type} (note : Memory × π → Move → List α) (world : Memory × π)
    (moves : List Move) (last : Move) :
    line.notes platform note world (moves ++ [last]) =
      line.notes platform note world moves ++ note (line.run platform world moves) last := by
  induction moves generalizing world with
  | nil => simp [notes, run]
  | cons first rest ih =>
    show note world first ++ line.notes platform note _ (rest ++ [last]) = _
    rw [ih, ← List.append_assoc]
    rfl

end Runs

namespace Carries

variable {platform : Platform} {line : Line π} {ready : π → Prop} {w w' : π}

/-- Of batches that are handed over, those that are taken come to wait. -/
theorem posts_all (hc : line.Carries ready) (batches : List (List Envelope)) (hw : ready w) :
    ready (Engine.handedAll line.publisher batches w) ∧
      ∃ es, line.dispatcher.get (Engine.handedAll line.publisher batches w) =
          (line.dispatcher.get w).posted es ∧ es.Sublist batches.flatten ∧
        (line.Reliable ready → es = batches.flatten) := by
  induction batches generalizing w with
  | nil => exact ⟨hw, [], (Dispatcher.posted_nil _).symm, .slnil, fun _ => rfl⟩
  | cons batch rest ih =>
    obtain ⟨hready, es, hes, hsub, hall⟩ := ih (hc.ready_handed batch w hw)
    refine ⟨hready, ?_⟩
    rcases Engine.published_eq line.publisher batch w with hpublish | ⟨reason, hpublish⟩
    · refine ⟨batch ++ es, ?_, (List.Sublist.refl batch).append hsub, ?_⟩
      · rw [← Dispatcher.posted_append, ← hc.taken batch w hw hpublish]
        exact hes
      · intro hok
        rw [hall hok, List.flatten_cons]
    · refine ⟨es, ?_, hsub.trans (List.sublist_append_right batch _), ?_⟩
      · rw [← hc.refused batch w _ hw hpublish]
        exact hes
      · intro hok
        rw [hok batch w hw] at hpublish
        cases hpublish

/-- Of a step the dispatcher gets the orders and otherwise only messages, and all of these if no
publish fails. -/
theorem posts (hc : line.Carries ready) (hw : ready w) {step : Step}
    (h : step.Publishes line.publisher w w') :
    ready w' ∧ ∃ es, line.dispatcher.get w' = (line.dispatcher.get w).posted es ∧
      (es.filter Envelope.isOrder).Perm step.orders ∧
      (line.Reliable ready →
        ∀ address, es.filterMap (Envelope.messageFor address) = step.produced address) := by
  cases h with
  | told batches horders hquiet hproduced =>
    obtain ⟨hready, es, hes, hsub, hall⟩ := hc.posts_all batches hw
    refine ⟨hready, es, hes, ?_, ?_⟩
    · refine .of_eq ?_
      rw [horders, List.filter_eq_nil_iff]
      intro e he
      obtain ⟨batch, hbatch, he⟩ := List.mem_flatten.1 (hsub.mem he)
      simp [hquiet batch hbatch e he]
    · intro hok address
      rw [hall hok, hproduced]
  | ordered batch hbatch hpublish hproduced =>
    have hlifecycle : ∀ e ∈ batch, e.isOrder = true :=
      fun e he => step.orders_isOrder e (hbatch.mem_iff.1 he)
    refine ⟨hc.ready_handed _ w hw, batch, hc.taken _ w hw hpublish, ?_, ?_⟩
    · rwa [List.filter_eq_self.2 hlifecycle]
    · intro _ address
      rw [hproduced, List.filterMap_eq_nil_iff]
      intro e he
      have he := hlifecycle e he
      cases e with
      | message m => cases he
      | lifecycle c => rfl
  | refused batch e horders hpublish hproduced =>
    refine ⟨hc.ready_handed _ w hw, [], ?_, .of_eq horders.symm,
      fun _ address => (hproduced address).symm⟩
    rw [Dispatcher.posted_nil]
    exact hc.refused batch w e hw hpublish

/-- What becomes of the world when the engine carries out a command. -/
theorem command (hc : line.Carries ready) (platform : Platform) {world : Memory × π}
    (hw : ready world.2) (request : Engine.Occasion) {after : Memory × π}
    (hafter : line.move platform world (.command request) = after) :
    (line.step world request).Relists after.1.listing ∧ ready after.2 ∧
      ∃ es, line.dispatcher.get after.2 = (line.dispatcher.get world.2).posted es ∧
        (es.filter Envelope.isOrder).Perm (line.step world request).orders ∧
        (line.Reliable ready → ∀ address, es.filterMap (Envelope.messageFor address) =
          (line.step world request).produced address) := by
  obtain ⟨m, w⟩ := world
  have heffect := Engine.handle_effect line.publisher request.layout request.setting m w
    request.command
  subst hafter
  exact ⟨heffect.relists, hc.posts hw heffect.publishes⟩

/-- What becomes of the dispatcher when the adapter handles some of what waits. -/
theorem consume (hc : line.Carries ready) (platform : Platform) {world : Memory × π}
    (hw : ready world.2) (most : Nat) :
    ready (line.move platform world (.consume most)).2 ∧
      line.dispatcher.get (line.move platform world (.consume most)).2 =
        (line.dispatcher.get world.2).advanced platform most := by
  rw [move]
  dsimp only
  rw [Dispatcher.exec_consume, hc.get_set]
  exact ⟨hc.ready_set _ _ hw rfl, rfl⟩

end Carries

namespace Reliable

variable {line : Line π} {ready : π → Prop}

theorem outcome_ne (h : line.Reliable ready) {world : Memory × π} (hw : ready world.2)
    (request : Engine.Occasion) (reason : String) :
    (line.step world request).outcome ≠ .error (.publish reason) := by
  obtain ⟨m, w⟩ := world
  have heffect := Engine.handle_effect line.publisher request.layout request.setting m w
    request.command
  exact heffect.outcome_ne (fun batch => h batch w hw) reason

/-- A resume on a reliable line orders sessions for all started bots. -/
theorem resume (h : line.Reliable ready) (platform : Platform) {world : Memory × π}
    (hw : ready world.2) (layout : Memory.Layout) (setting : Setting) :
    (line.move platform world (.command ⟨layout, setting, .resume⟩)).1 = world.1 ∧
      (line.step world ⟨layout, setting, .resume⟩).orders =
        Engine.starts (world.1.bots.rows.filter fun bot => bot.status = .started) := by
  obtain ⟨m, w⟩ := world
  have hlist := m.exec_botsWithStatus layout .started
  have hresume := Engine.exec_resume line.publisher setting hlist w
  rw [h _ w hw] at hresume
  rw [move, Engine.carryOut, Step.orders, step]
  dsimp only
  rw [hresume]
  split <;> exact ⟨rfl, rfl⟩

end Reliable

/-- The sessions that there will be once the adapter has caught up. -/
def sessions (platform : Platform) (line : Line π) (w : π) : Sessions :=
  ((line.dispatcher.get w).settled platform).tokens

section Sessions

variable {platform : Platform} {line : Line π} {ready : π → Prop}

theorem sessions_of_drained (platform : Platform) (line : Line π) {w : π}
    (h : (line.dispatcher.get w).source.waiting = []) :
    line.sessions platform w = (line.dispatcher.get w).adapter.tokens := by
  rw [sessions, Dispatcher.settled_of_drained platform h]

/-- A step gives its orders to the sessions, and nothing else changes them. -/
theorem sessions_command (hc : line.Carries ready) (hopens : platform.Opens)
    {world : Memory × π} (hw : ready world.2) (request : Engine.Occasion) :
    line.sessions platform (line.move platform world (.command request)).2 =
      (line.step world request).orders.foldl Sessions.after
        (line.sessions platform world.2) := by
  obtain ⟨_, _, es, hes, horders, _⟩ := hc.command platform hw request rfl
  rw [sessions, hes, Dispatcher.settled_posted, Adapter.tokens_foldl_handled hopens,
    Sessions.foldl_after, (line.step world request).foldl_after_perm horders]
  rfl

theorem sessions_consume (hc : line.Carries ready) {world : Memory × π} (hw : ready world.2)
    (most : Nat) :
    line.sessions platform (line.move platform world (.consume most)).2 =
      line.sessions platform world.2 := by
  rw [sessions, (hc.consume platform hw most).2, Dispatcher.settled_advanced]
  rfl

end Sessions

end Line

end ScriptedChat
