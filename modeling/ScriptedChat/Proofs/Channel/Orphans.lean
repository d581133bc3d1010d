import ScriptedChat.Proofs.Channel.Moves
import ScriptedChat.Proofs.Latest

/-!
Which sessions run for bots that are not stored. A bot that is recorded as started is stopped
before it is deleted. But a bot whose session runs is recorded as failed once a further start of it
cannot be published, and such a bot is deleted without a stop. Its session is then left behind. It
is shown that no session is left behind in any other way, whichever publishes fail, and that a
session that is left behind runs until a bot of the same identifier is stopped.
-/
namespace ScriptedChat

namespace Step

variable {step : Step} {id : Uuid}

/-- Whether a step orders a session for a bot. -/
def Starts (id : Uuid) (step : Step) : Prop := ∃ token, .lifecycle (.start id token) ∈ step.orders

/-- Whether a step orders the session of a bot to end. -/
def Stops (id : Uuid) (step : Step) : Prop := .lifecycle (.stop id) ∈ step.orders

theorem starts_iff {bots : List Bot} (h : step.orders = Engine.starts bots) :
    step.Starts id ↔ ∃ bot ∈ bots, bot.id = id := by
  unfold Starts
  rw [h]
  simp only [Engine.starts, List.mem_map, Envelope.lifecycle.injEq, LifecycleCommand.start,
    LifecycleCommand.mk.injEq, true_and]
  constructor
  · rintro ⟨token, bot, hbot, hid, _⟩
    exact ⟨bot, hbot, Uuid.toText_injective hid⟩
  · rintro ⟨bot, hbot, rfl⟩
    exact ⟨bot.token, bot, hbot, rfl, rfl⟩

theorem not_stops_of_starts {bots : List Bot} (h : step.orders = Engine.starts bots) :
    ¬ step.Stops id := by
  unfold Stops
  rw [h]
  simp [Engine.starts, LifecycleCommand.start, LifecycleCommand.stop]

theorem stops_iff {other : Uuid} (h : step.orders = [.lifecycle (.stop other)]) :
    step.Stops id ↔ other = id := by
  unfold Stops
  rw [h]
  simp only [List.mem_singleton, Envelope.lifecycle.injEq, LifecycleCommand.stop,
    LifecycleCommand.mk.injEq, and_true]
  constructor
  · intro hid
    exact (Uuid.toText_injective hid).symm
  · rintro rfl
    rfl

theorem not_starts_of_stop {other : Uuid} (h : step.orders = [.lifecycle (.stop other)]) :
    ¬ step.Starts id := by
  unfold Starts
  rw [h]
  simp [LifecycleCommand.start, LifecycleCommand.stop]

end Step

namespace Sessions

/-- Starts keep the sessions that there are and open the others. -/
theorem isSome_starts (bots : List Bot) (s : Sessions) (name : String) :
    (((Engine.starts bots).foldl Sessions.after s) name).isSome = true ↔
      (s name).isSome = true ∨ ∃ bot ∈ bots, bot.id.toText = name := by
  rw [foldl_starts, Option.isSome_or, Option.isSome_map, Bool.or_eq_true, List.find?_isSome]
  simp only [decide_eq_true_eq]

end Sessions

/-- After its orders there is a session of a bot if the step ordered one, or if there was one and
the step did not order it to end. -/
theorem Step.isSome_orders (step : Step) (s : Sessions) (id : Uuid) :
    ((step.orders.foldl Sessions.after s) id.toText).isSome = true ↔
      step.Starts id ∨ (¬ step.Stops id ∧ (s id.toText).isSome = true) := by
  rcases step.orders_cases with ⟨bots, horders, _⟩ | ⟨other, horders⟩
  · have hname : (∃ bot ∈ bots, bot.id.toText = id.toText) ↔ ∃ bot ∈ bots, bot.id = id := by
      constructor
      · rintro ⟨bot, hbot, hid⟩
        exact ⟨bot, hbot, Uuid.toText_injective hid⟩
      · rintro ⟨bot, hbot, rfl⟩
        exact ⟨bot, hbot, rfl⟩
    rw [horders, Sessions.isSome_starts, hname, starts_iff horders,
      and_iff_right (not_stops_of_starts horders)]
    exact or_comm
  · rw [horders, stops_iff horders, or_iff_right (not_starts_of_stop horders)]
    by_cases hid : other = id
    · subst hid
      simp [Sessions.after, LifecycleCommand.stop]
    · have hname : other.toText ≠ id.toText := mt Uuid.toText_injective hid
      simp [Sessions.after, LifecycleCommand.stop, hid, hname]

/-- A session was ordered for a bot and was not ordered to end since. -/
def Ordered (history : List Step) (id : Uuid) : Prop :=
  Latest (fun step (_ : Unit) => step.Starts id) (Step.Stops id) history ()

/-- A session was ordered for a bot and was not ordered to end since, though the bot was deleted as
a failed one. -/
def Orphaned (history : List Step) (id : Uuid) : Prop :=
  ∃ earlier start later, history = earlier ++ start :: later ∧ start.Starts id ∧
    (∀ step ∈ later, ¬ step.Stops id) ∧ ∃ step ∈ later, step.Abandons id

namespace Orphaned

variable {history : List Step} {step : Step} {id : Uuid}

theorem ordered (h : Orphaned history id) : Ordered history id := by
  obtain ⟨earlier, start, later, heq, hstart, hlater, _⟩ := h
  exact ⟨earlier, start, later, heq, hstart, hlater⟩

theorem concat (h : Orphaned history id) (hstep : ¬ step.Stops id) :
    Orphaned (history ++ [step]) id := by
  obtain ⟨earlier, start, later, rfl, hstart, hlater, delete, hdelete, habandons⟩ := h
  have hquiet := List.forall_mem_append.2 ⟨hlater, List.forall_mem_singleton.2 hstep⟩
  exact ⟨earlier, start, later ++ [step], by simp, hstart, hquiet, delete, by simp [hdelete],
    habandons⟩

theorem of_abandons (h : Ordered history id) (hstep : ¬ step.Stops id)
    (habandons : step.Abandons id) : Orphaned (history ++ [step]) id := by
  obtain ⟨earlier, start, later, rfl, hstart, hlater⟩ := h
  have hquiet := List.forall_mem_append.2 ⟨hlater, List.forall_mem_singleton.2 hstep⟩
  exact ⟨earlier, start, later ++ [step], by simp, hstart, hquiet, step, by simp, habandons⟩

end Orphaned

/-- A bot is listed as started or as failed. -/
def Listing.Engaged (l : Listing) (id : Uuid) : Prop :=
  ∃ status token, l id = some (status, token) ∧ status ≠ .stopped

namespace Step.Relists

variable {step : Step} {l : Listing} {id : Uuid}

/-- A bot for which a step orders a session is listed as started. -/
theorem engaged_of_starts (h : step.Relists l) (hstarts : step.Starts id) : l.Engaged id := by
  have hnone : step.orders = [] → ¬ step.Starts id := by
    rintro horders ⟨token, hmem⟩
    rw [horders] at hmem
    exact List.not_mem_nil hmem
  cases h with
  | nothing horders => exact absurd hstarts (hnone horders)
  | created other token hfree horders => exact absurd hstarts (hnone horders)
  | started other bot hbot horders =>
    obtain ⟨started, hmem, hid⟩ := (starts_iff horders).1 hstarts
    rw [List.mem_singleton.1 hmem] at hid
    have hother : bot.id = other := Table.key_of_get? hbot
    refine ⟨.started, bot.token, ?_, by decide⟩
    rw [← hother, hid, Function.update_self]
  | startFailed other bot reason hbot horders => exact absurd hstarts (hnone horders)
  | stopped other bot hbot horders => exact absurd hstarts (not_starts_of_stop horders)
  | deletedIdle other bot hbot hidle habandons horders => exact absurd hstarts (hnone horders)
  | deletedRunning other horders => exact absurd hstarts (not_starts_of_stop horders)
  | resumed horders =>
    obtain ⟨bot, hmem, hid⟩ := (starts_iff horders).1 hstarts
    obtain ⟨hmem, hstatus⟩ := List.mem_filter.1 hmem
    have hstatus : bot.status = .started := by simpa using hstatus
    subst hid
    exact ⟨.started, bot.token, Memory.listing_eq_some_iff.2
      ⟨bot, Table.get?_key_of_mem hmem, hstatus, rfl⟩, by decide⟩

/-- A bot that was listed as started or as failed still is after a step that does not stop it,
unless the step deletes it as a failed one. -/
theorem engaged_or_abandons (h : step.Relists l) (hbefore : step.before.listing.Engaged id)
    (hstops : ¬ step.Stops id) : l.Engaged id ∨ step.Abandons id := by
  obtain ⟨status, token, hlisted, hstatus⟩ := hbefore
  have hkept : ∀ other entry, other ≠ id →
      Listing.Engaged (Function.update step.before.listing other entry) id := by
    intro other entry hother
    exact ⟨status, token, by rw [Function.update_of_ne (Ne.symm hother), hlisted], hstatus⟩
  have hunchanged : Listing.Engaged step.before.listing id := ⟨status, token, hlisted, hstatus⟩
  cases h with
  | nothing horders => exact Or.inl hunchanged
  | created other token hfree horders =>
    have hother : other ≠ id := by
      rintro rfl
      rw [hfree] at hlisted
      cases hlisted
    exact Or.inl (hkept other _ hother)
  | started other bot hbot horders =>
    by_cases hother : other = id
    · subst hother
      exact Or.inl ⟨.started, bot.token, Function.update_self .., by decide⟩
    · exact Or.inl (hkept other _ hother)
  | startFailed other bot reason hbot horders =>
    by_cases hother : other = id
    · subst hother
      exact Or.inl ⟨.failed, bot.token, Function.update_self .., by decide⟩
    · exact Or.inl (hkept other _ hother)
  | stopped other bot hbot horders =>
    exact Or.inl (hkept other _ fun hother => hstops ((stops_iff horders).2 hother))
  | deletedIdle other bot hbot hidle habandons horders =>
    by_cases hother : other = id
    · subst hother
      rw [Memory.listing_of_get? hbot] at hlisted
      cases hlisted
      have hfailed : bot.status = .failed := by
        cases hbotStatus : bot.status with
        | stopped => exact absurd hbotStatus hstatus
        | started => exact absurd hbotStatus hidle
        | failed => rfl
      exact Or.inr (habandons hfailed)
    · exact Or.inl (hkept other _ hother)
  | deletedRunning other horders =>
    exact Or.inl (hkept other _ fun hother => hstops ((stops_iff horders).2 hother))
  | resumed horders => exact Or.inl hunchanged

end Step.Relists

/-- What holds along every run of a history, the stores and the sessions to come. -/
structure Traces (history : List Step) (l : Listing) (s : Sessions) : Prop where
  running : ∀ id : Uuid, (s id.toText).isSome = true ↔ Ordered history id
  engaged : ∀ id, Ordered history id → l.Engaged id ∨ Orphaned history id

namespace Traces

theorem empty (l : Listing) : Traces [] l fun _ => none where
  running id := by simp [Ordered, Latest.not_nil]
  engaged id h := absurd h Latest.not_nil

theorem concat {history : List Step} {step : Step} {l : Listing} {s : Sessions}
    (h : Traces history step.before.listing s) (hstep : step.Relists l) :
    Traces (history ++ [step]) l (step.orders.foldl Sessions.after s) where
  running id := by
    rw [step.isSome_orders, h.running id, Ordered, Ordered, Latest.concat_iff]
  engaged id hordered := by
    rcases Latest.concat_iff.1 hordered with hstarts | ⟨hstops, hordered⟩
    · exact Or.inl (hstep.engaged_of_starts hstarts)
    · rcases h.engaged id hordered with hengaged | horphaned
      · rcases hstep.engaged_or_abandons hengaged hstops with hengaged | habandons
        · exact Or.inl hengaged
        · exact Or.inr (Orphaned.of_abandons hordered hstops habandons)
      · exact Or.inr (horphaned.concat hstops)

end Traces

namespace Line

variable {π : Type} {platform : Platform} {line : Line π} {ready : π → Prop}

/-- Along a run on any line the sessions follow the orders, and bots stay listed with them. -/
theorem run_traces (hc : line.Carries ready) (hopens : platform.Opens) (start : Memory × π)
    (hready : ready start.2) (hidle : line.sessions platform start.2 = fun _ => none)
    (moves : List Move) :
    ready (line.run platform start moves).2 ∧
      Traces (line.history platform start moves) (line.run platform start moves).1.listing
        (line.sessions platform (line.run platform start moves).2) := by
  induction moves using List.reverseRecOn with
  | nil =>
    refine ⟨hready, ?_⟩
    show Traces [] start.1.listing (line.sessions platform start.2)
    rw [hidle]
    exact Traces.empty _
  | append_singleton moves last ih =>
    rw [history, notes_concat, ← history, run_concat]
    generalize line.run platform start moves = world at ih ⊢
    obtain ⟨hready, htraces⟩ := ih
    cases last with
    | command request =>
      obtain ⟨hrelists, hready', _⟩ := hc.command platform hready request rfl
      refine ⟨hready', ?_⟩
      rw [sessions_command hc hopens hready]
      exact htraces.concat hrelists
    | consume most =>
      refine ⟨(hc.consume platform hready most).1, ?_⟩
      rw [sessions_consume hc hready, steps, List.append_nil]
      exact htraces

/-- Once the adapter has caught up, a session runs for a bot that is not stored exactly if the bot
was deleted as a failed one, after a start and with no stop since then. -/
theorem running_iff_orphaned (outcomes : Nat → Except BusError Unit) (hopens : platform.Opens)
    (moves : List Move) {id : Uuid}
    (hdrained : ((unsteady outcomes).run platform idle moves).2.behind.source.waiting = [])
    (hgone : ((unsteady outcomes).run platform idle moves).1.bots.get? id = none) :
    ((unsteady outcomes).run platform idle moves).2.behind.adapter.isRunning id.toText = true ↔
      Orphaned ((unsteady outcomes).history platform idle moves) id := by
  have hidle : (unsteady outcomes).sessions platform idle.2 = fun _ => none := rfl
  obtain ⟨_, htraces⟩ := run_traces (unsteady_carries outcomes) hopens idle rfl hidle moves
  rw [Adapter.isRunning_eq]
  have hsessions : ((unsteady outcomes).run platform idle moves).2.behind.adapter.tokens =
      (unsteady outcomes).sessions platform ((unsteady outcomes).run platform idle moves).2 :=
    (sessions_of_drained platform (unsteady outcomes) hdrained).symm
  rw [hsessions]
  refine (htraces.running id).trans ?_
  constructor
  · intro hordered
    rcases htraces.engaged id hordered with ⟨status, token, hlisted, _⟩ | horphaned
    · obtain ⟨bot, hbot, _⟩ := Memory.listing_eq_some_iff.1 hlisted
      rw [hbot] at hgone
      cases hgone
    · exact horphaned
  · exact Orphaned.ordered

/-- Two bots are started, and one of them is started again while nothing can be published. Both are
deleted then. -/
theorem running_iff_orphaned_outage :
    let platform : Platform := ⟨fun _ _ => none⟩
    let draft : Uuid → BotDraft := fun id => ⟨id, 5, "Shop", "token", [⟨"start", 1⟩],
      [⟨1, 0, "Name", "Who are you?", .question⟩]⟩
    let outcomes : Nat → Except BusError Unit := fun n => if n = 2 then .error .closed else .ok ()
    let moves : List Move := [.createBot (draft ⟨1⟩), .createBot (draft ⟨2⟩), .startBot ⟨1⟩ 5,
      .startBot ⟨2⟩ 5, .startBot ⟨1⟩ 5, .deleteBot ⟨1⟩ 5, .deleteBot ⟨2⟩ 5].map
        (fun c => .command ⟨.flat, ⟨⟨0⟩, .permissive⟩, c⟩) ++ [.consume 5]
    platform.Opens ∧
      ((unsteady outcomes).run platform idle moves).2.behind.source.waiting = [] ∧
      ∀ id ∈ [(⟨1⟩ : Uuid), ⟨2⟩],
        ((unsteady outcomes).run platform idle moves).1.bots.get? id = none ∧
        (((unsteady outcomes).run platform idle moves).2.behind.adapter.isRunning id.toText = true ↔
          Orphaned ((unsteady outcomes).history platform idle moves) id) := by
  intro platform draft outcomes moves
  have hopens : platform.Opens := fun _ _ _ => rfl
  have hdrained :
      ((unsteady outcomes).run platform idle moves).2.behind.source.waiting = [] := by
    decide +kernel
  have hgone : ∀ id ∈ [(⟨1⟩ : Uuid), ⟨2⟩],
      ((unsteady outcomes).run platform idle moves).1.bots.get? id = none := by
    decide +kernel
  refine ⟨hopens, hdrained, fun id hid => ?_⟩
  exact ⟨hgone id hid, running_iff_orphaned outcomes hopens moves hdrained (hgone id hid)⟩

/-- A bot is deleted, its owner is told so, everything is handled, and its session runs on. -/
theorem session_outlives_bot :
    let platform : Platform := ⟨fun _ _ => none⟩
    let id : Uuid := ⟨1⟩
    let draft : BotDraft := ⟨id, 5, "Shop", "token", [⟨"start", 1⟩],
      [⟨1, 0, "Name", "Who are you?", .question⟩]⟩
    let outcomes : Nat → Except BusError Unit := fun n => if n = 1 then .error .closed else .ok ()
    let moves : List Move := [.createBot draft, .startBot id 5, .startBot id 5,
      .deleteBot id 5].map (fun c => .command ⟨.flat, ⟨⟨0⟩, .permissive⟩, c⟩) ++ [.consume 1]
    let world := (unsteady outcomes).run platform idle moves
    platform.Opens ∧
      ((unsteady outcomes).history platform idle moves).getLast?.map Step.outcome =
        some (.ok .done) ∧
      world.2.behind.source.waiting = [] ∧ world.1.bots.get? id = none ∧
      world.2.behind.adapter.isRunning id.toText = true := by
  intro platform id draft outcomes moves world
  exact ⟨fun _ _ _ => rfl, by decide +kernel, by decide +kernel, by decide +kernel,
    by decide +kernel⟩

end Line

end ScriptedChat
