import ScriptedChat.Proofs.Channel.Moves

/-!
Engine and adapter agree as long as no publish fails. The sessions that there will be once the
adapter has caught up are those of the bots that are recorded as started, and each has the
credential that is recorded for its bot. Every step keeps this. An adapter that is replaced while
nothing waits has no sessions at all; what it has is then less than what is recorded, and a resume
makes up for it.
-/
namespace ScriptedChat

/-- A bot of a name is recorded as started, with a credential. -/
def Listing.Due (l : Listing) (name token : String) : Prop :=
  ∃ id : Uuid, id.toText = name ∧ l id = some (.started, token)

/-- There is no session that is not recorded. -/
def Sessions.Within (s : Sessions) (l : Listing) : Prop :=
  ∀ name token, s name = some token → l.Due name token

/-- The sessions are those that are recorded. -/
def Sessions.Matches (s : Sessions) (l : Listing) : Prop :=
  ∀ name token, s name = some token ↔ l.Due name token

namespace Listing

variable {l : Listing} {name token : String} {id : Uuid}

theorem due_iff : l.Due id.toText token ↔ l id = some (.started, token) := by
  constructor
  · rintro ⟨other, hname, hlisted⟩
    rw [← Uuid.toText_injective hname]
    exact hlisted
  · intro hlisted
    exact ⟨id, rfl, hlisted⟩

theorem Due.unique {other : String} (h : l.Due name token) (h' : l.Due name other) :
    token = other := by
  obtain ⟨id, rfl, hlisted⟩ := h
  rw [due_iff, hlisted] at h'
  cases h'
  rfl

theorem due_update_self {entry : Option (BotStatus × String)} :
    Due (Function.update l id entry) id.toText token ↔ entry = some (.started, token) := by
  rw [due_iff, Function.update_self]

theorem due_update_of_ne (entry : Option (BotStatus × String)) (h : name ≠ id.toText) :
    Due (Function.update l id entry) name token ↔ l.Due name token := by
  have hother : ∀ other : Uuid, other.toText = name → other ≠ id := by
    rintro other rfl rfl
    exact h rfl
  constructor
  · rintro ⟨other, hname, hlisted⟩
    rw [Function.update_of_ne (hother other hname)] at hlisted
    exact ⟨other, hname, hlisted⟩
  · rintro ⟨other, hname, hlisted⟩
    refine ⟨other, hname, ?_⟩
    rw [Function.update_of_ne (hother other hname), hlisted]

end Listing

namespace Sessions

variable {s : Sessions} {l : Listing}

theorem Matches.within (h : s.Matches l) : s.Within l := fun name token => (h name token).1

theorem matches_none : Matches (fun _ => none) fun _ => none := by
  intro name token
  constructor
  · intro h
    cases h
  · rintro ⟨id, _, h⟩
    cases h

/-- Starts of all bots that have no session but should have one. -/
theorem Within.starts (h : s.Within l) {bots : List Bot}
    (hdue : ∀ bot ∈ bots, l.Due bot.id.toText bot.token)
    (hall : ∀ name token, l.Due name token → s name = none →
      ∃ bot ∈ bots, bot.id.toText = name) :
    Matches ((Engine.starts bots).foldl Sessions.after s) l := by
  intro name token
  rw [foldl_starts]
  cases hs : s name with
  | some running =>
    have hrunning := h name running hs
    rw [Option.some_or, Option.some.injEq]
    constructor
    · rintro rfl
      exact hrunning
    · intro htoken
      exact hrunning.unique htoken
  | none =>
    rw [Option.none_or, Option.map_eq_some_iff]
    constructor
    · rintro ⟨bot, hfind, rfl⟩
      have hname : bot.id.toText = name := by simpa using List.find?_some hfind
      rw [← hname]
      exact hdue bot (List.mem_of_find?_eq_some hfind)
    · intro htoken
      obtain ⟨bot, hbot, hname⟩ := hall name token htoken hs
      have hsome : (bots.find? fun bot => bot.id.toText = name).isSome := by
        rw [List.find?_isSome]
        exact ⟨bot, hbot, by simpa using hname⟩
      obtain ⟨found, hfind⟩ := Option.isSome_iff_exists.1 hsome
      have hfound : found.id.toText = name := by simpa using List.find?_some hfind
      refine ⟨found, hfind, ?_⟩
      have hfoundDue := hdue found (List.mem_of_find?_eq_some hfind)
      rw [hfound] at hfoundDue
      exact hfoundDue.unique htoken

/-- The starts of all started bots bring the sessions to what is recorded. -/
theorem Within.resume {m : Memory} (h : s.Within m.listing) :
    Matches ((Engine.starts (m.bots.rows.filter fun bot => bot.status = .started)).foldl
      Sessions.after s) m.listing := by
  refine h.starts ?_ ?_
  · intro bot hbot
    obtain ⟨hmem, hstatus⟩ := List.mem_filter.1 hbot
    have hstatus : bot.status = .started := by simpa using hstatus
    rw [Listing.due_iff, Memory.listing_of_get? (Table.get?_key_of_mem hmem), hstatus]
  · rintro name token ⟨id, hname, hlisted⟩ _
    obtain ⟨bot, hbot, hstatus, _⟩ := Memory.listing_eq_some_iff.1 hlisted
    obtain ⟨hmem, hid⟩ := Table.get?_eq_some_iff.1 hbot
    refine ⟨bot, List.mem_filter.2 ⟨hmem, by simpa using hstatus⟩, ?_⟩
    rw [hid, hname]

/-- A bot that has no session may be listed in any way but as started. -/
theorem Matches.update (h : s.Matches l) {id : Uuid} {entry : Option (BotStatus × String)}
    (hs : s id.toText = none) (hentry : ∀ token, entry ≠ some (.started, token)) :
    s.Matches (Function.update l id entry) := by
  intro name token
  by_cases hname : name = id.toText
  · subst hname
    rw [Listing.due_update_self, hs]
    constructor
    · intro h
      cases h
    · intro hlisted
      exact absurd hlisted (hentry token)
  · rw [Listing.due_update_of_ne entry hname]
    exact h name token

/-- A bot whose session is ordered to end may be listed in any way but as started. -/
theorem Matches.stop (h : s.Matches l) {id : Uuid} {entry : Option (BotStatus × String)}
    (hentry : ∀ token, entry ≠ some (.started, token)) :
    Matches (s.after (.lifecycle (.stop id))) (Function.update l id entry) := by
  intro name token
  by_cases hname : name = id.toText
  · subst hname
    rw [Listing.due_update_self]
    constructor
    · intro hnone
      simp [Sessions.after, LifecycleCommand.stop] at hnone
    · intro hlisted
      exact absurd hlisted (hentry token)
  · have hother : id.toText ≠ name := Ne.symm hname
    rw [Listing.due_update_of_ne entry hname, ← h name token]
    simp [Sessions.after, LifecycleCommand.stop, hother]

/-- Without failed publishes every step keeps sessions and records together. -/
theorem Matches.concat {step : Step} (h : s.Matches step.before.listing)
    (hstep : step.Relists l) (hok : ∀ reason, step.outcome ≠ .error (.publish reason)) :
    Matches (step.orders.foldl Sessions.after s) l := by
  have hidle : ∀ id : Uuid, (∀ token, step.before.listing id ≠ some (.started, token)) →
      s id.toText = none := by
    intro id hlisted
    cases hs : s id.toText with
    | none => rfl
    | some token => exact absurd (Listing.due_iff.1 ((h _ token).1 hs)) (hlisted token)
  cases hstep with
  | nothing horders =>
    rw [horders]
    exact h
  | created id token hfree horders =>
    rw [horders]
    refine h.update (hidle id ?_) (by simp)
    intro other
    rw [hfree]
    simp
  | started id bot hbot horders =>
    have hid : bot.id = id := Table.key_of_get? hbot
    subst hid
    rw [horders]
    refine Within.starts ?_ ?_ ?_
    · intro name token hs
      have hdue := (h name token).1 hs
      by_cases hname : name = bot.id.toText
      · -- The start finds a session, which has the credential of the bot already.
        subst hname
        rw [Listing.due_iff, Memory.listing_of_get? hbot] at hdue
        rw [Option.some.injEq, Prod.mk.injEq] at hdue
        rw [Listing.due_update_self, hdue.2]
      · rwa [Listing.due_update_of_ne _ hname]
    · intro other hother
      rw [List.mem_singleton.1 hother, Listing.due_update_self]
    · intro name token hdue hs
      by_cases hname : name = bot.id.toText
      · exact ⟨bot, List.mem_singleton_self bot, hname.symm⟩
      · rw [Listing.due_update_of_ne _ hname, ← h name token, hs] at hdue
        cases hdue
  | startFailed id bot reason hbot horders hfailed => exact absurd hfailed (hok reason)
  | stopped id bot hbot horders =>
    rw [horders, List.foldl_cons, List.foldl_nil]
    exact h.stop (by simp)
  | deletedIdle id bot hbot hnot habandons horders =>
    rw [horders]
    refine h.update (hidle id ?_) (by simp)
    intro token hlisted
    rw [Memory.listing_of_get? hbot, Option.some.injEq, Prod.mk.injEq] at hlisted
    exact hnot hlisted.1
  | deletedRunning id horders =>
    rw [horders, List.foldl_cons, List.foldl_nil]
    exact h.stop (by simp)
  | resumed horders =>
    rw [horders]
    exact h.within.resume

end Sessions

namespace Line

section Attended

variable {π : Type} (platform : Platform) (line : Line π)

/-- The world with a new adapter, which has no sessions. -/
def replaced (world : Memory × π) : Memory × π :=
  (world.1, line.dispatcher.set world.2 { line.dispatcher.get world.2 with adapter := {} })

/-- The worlds that a run can come to in which the adapter may be replaced whenever nothing waits,
as long as the next command is then a resume; and whether that resume is still to come. -/
inductive Attended (start : Memory × π) : Memory × π → Bool → Prop
  | start : Attended start start false
  | command {world : Memory × π} (h : Attended start world false) (request : Engine.Occasion) :
      Attended start (line.move platform world (.command request)) false
  | consume {world : Memory × π} {awaiting : Bool} (h : Attended start world awaiting)
      (most : Nat) : Attended start (line.move platform world (.consume most)) awaiting
  | replace {world : Memory × π} {awaiting : Bool} (h : Attended start world awaiting)
      (hdrained : (line.dispatcher.get world.2).source.waiting = []) :
      Attended start (line.replaced world) true
  | resume {world : Memory × π} (h : Attended start world true) (layout : Memory.Layout)
      (setting : Setting) :
      Attended start (line.move platform world (.command ⟨layout, setting, .resume⟩)) false

end Attended

section Agreement

variable {π : Type} {platform : Platform} {line : Line π} {ready : π → Prop}
  {start world : Memory × π}

/-- A run without replacements. -/
theorem Attended.run (h : line.Attended platform start world false) (moves : List Move) :
    line.Attended platform start (line.run platform world moves) false := by
  induction moves using List.reverseRecOn with
  | nil => exact h
  | append_singleton moves last ih =>
    rw [run_concat]
    cases last with
    | command request => exact ih.command request
    | consume most => exact ih.consume most

theorem sessions_replaced (hc : line.Carries ready) (platform : Platform)
    (hdrained : (line.dispatcher.get world.2).source.waiting = []) :
    line.sessions platform (line.replaced world).2 = fun _ => none := by
  have hget : line.dispatcher.get (line.replaced world).2 =
      { line.dispatcher.get world.2 with adapter := {} } := hc.get_set _ _
  rw [sessions_of_drained, hget]
  · rfl
  · rw [hget]
    exact hdrained

/-- What holds in every world that a run comes to. -/
theorem Attended.matches (h : line.Attended platform start world awaiting)
    (hc : line.Carries ready) (hok : line.Reliable ready) (hopens : platform.Opens)
    (hready : ready start.2)
    (hstart : (line.sessions platform start.2).Matches start.1.listing) :
    ready world.2 ∧ (line.sessions platform world.2).Within world.1.listing ∧
      (awaiting = false → (line.sessions platform world.2).Matches world.1.listing) := by
  induction h with
  | start => exact ⟨hready, hstart.within, fun _ => hstart⟩
  | command h request ih =>
    obtain ⟨hready, _, hmatches⟩ := ih
    obtain ⟨hrelists, hready', _⟩ := hc.command platform hready request rfl
    have hafter := (hmatches rfl).concat hrelists (hok.outcome_ne hready request)
    rw [← sessions_command hc hopens hready] at hafter
    exact ⟨hready', hafter.within, fun _ => hafter⟩
  | consume h most ih =>
    obtain ⟨hready, hwithin, hmatches⟩ := ih
    rw [sessions_consume hc hready]
    exact ⟨(hc.consume platform hready most).1, hwithin, hmatches⟩
  | replace h hdrained ih =>
    obtain ⟨hready, _, _⟩ := ih
    have hnone := sessions_replaced hc platform hdrained
    refine ⟨hc.ready_set _ _ hready rfl, ?_, fun hawaiting => by cases hawaiting⟩
    intro name token hs
    rw [hnone] at hs
    cases hs
  | resume h layout setting ih =>
    -- A new adapter may lack sessions but has none too many, and a resume asks for all of them.
    obtain ⟨hready, hwithin, _⟩ := ih
    obtain ⟨_, hready', _⟩ := hc.command platform hready ⟨layout, setting, .resume⟩ rfl
    obtain ⟨hstores, horders⟩ := hok.resume platform hready layout setting
    have hafter := hwithin.resume
    rw [← horders, ← sessions_command hc hopens hready, ← hstores] at hafter
    exact ⟨hready', hafter.within, fun _ => hafter⟩

end Agreement

end Line

/-- The sessions of an adapter are those of the started bots, and have their credentials. -/
structure Adapter.InStep (a : Adapter) (m : Memory) : Prop where
  running : ∀ name, a.isRunning name = true ↔
    ∃ bot ∈ m.bots.rows, bot.id.toText = name ∧ bot.status = .started
  token : ∀ bot ∈ m.bots.rows, ∀ runner, a.runners.get? bot.id.toText = some runner →
    runner.token = bot.token

theorem Sessions.Matches.inStep {a : Adapter} {m : Memory} (h : a.tokens.Matches m.listing) :
    a.InStep m where
  running name := by
    rw [Adapter.isRunning_eq, Option.isSome_iff_exists]
    constructor
    · rintro ⟨token, htoken⟩
      obtain ⟨id, hname, hlisted⟩ := (h name token).1 htoken
      obtain ⟨bot, hbot, hstatus, _⟩ := Memory.listing_eq_some_iff.1 hlisted
      obtain ⟨hmem, hid⟩ := Table.get?_eq_some_iff.1 hbot
      exact ⟨bot, hmem, by rw [hid, hname], hstatus⟩
    · rintro ⟨bot, hmem, hname, hstatus⟩
      refine ⟨bot.token, (h name bot.token).2 ⟨bot.id, hname, ?_⟩⟩
      rw [Memory.listing_of_get? (Table.get?_key_of_mem hmem), hstatus]
  token bot hmem runner hrunner := by
    have htoken : a.tokens bot.id.toText = some runner.token := by
      rw [Adapter.tokens, hrunner, Option.map_some]
    have hdue := (h _ _).1 htoken
    rw [Listing.due_iff, Memory.listing_of_get? (Table.get?_key_of_mem hmem), Option.some.injEq,
      Prod.mk.injEq] at hdue
    exact hdue.2.symm

namespace Line

/-- On a steady line engine and adapter agree whenever nothing waits and no new adapter waits for
its resume. -/
theorem adapter_inStep (hasOutbox : Bool) {platform : Platform} (hopens : platform.Opens)
    {world : Memory × Outbox (Dispatcher Queue)}
    (h : (steady hasOutbox).Attended platform calm world false)
    (hdrained : world.2.inner.source.waiting = []) : world.2.inner.adapter.InStep world.1 := by
  have hstart : ((steady hasOutbox).sessions platform calm.2).Matches calm.1.listing :=
    Sessions.matches_none
  obtain ⟨_, _, hmatches⟩ := h.matches (steady_carries hasOutbox) (steady_reliable hasOutbox)
    hopens ⟨rfl, rfl⟩ hstart
  have hsessions := sessions_of_drained platform (steady hasOutbox) hdrained
  rw [hsessions] at hmatches
  exact (hmatches rfl).inStep

/-- A bot is started twice, deleted and made again with another credential; another bot is started
and stopped. Then the adapter is replaced and resumes. -/
theorem adapter_inStep_replaced :
    let platform : Platform := ⟨fun _ _ => none⟩
    let draft : Uuid → String → BotDraft := fun id token => ⟨id, 5, "Shop", token, [⟨"start", 1⟩],
      [⟨1, 0, "Name", "Who are you?", .question⟩]⟩
    let setting : Setting := ⟨⟨0⟩, .permissive⟩
    let layout : Memory.Layout := ⟨fun id => if id = ⟨1⟩ then 1 else 0⟩
    let command : Command → Move := fun c => .command ⟨layout, setting, c⟩
    let moves : List Move := [command (.createBot (draft ⟨1⟩ "old")),
      command (.startBot ⟨1⟩ 5), command (.startBot ⟨1⟩ 5), command (.deleteBot ⟨1⟩ 5), .consume 1,
      command (.createBot (draft ⟨1⟩ "new")), command (.startBot ⟨1⟩ 5),
      command (.createBot (draft ⟨2⟩ "other")), command (.startBot ⟨2⟩ 5),
      .consume 2, command (.stopBot ⟨2⟩ 5), .consume 9]
    let line := steady true
    let world := line.run platform
      (line.move platform (line.replaced (line.run platform calm moves))
        (.command ⟨layout, setting, .resume⟩)) [.consume 9]
    platform.Opens ∧ line.Attended platform calm world false ∧
      world.2.inner.source.waiting = [] ∧ world.2.inner.adapter.InStep world.1 := by
  intro platform draft setting layout command moves line world
  have hopens : platform.Opens := fun _ _ _ => rfl
  have hwaiting : (line.dispatcher.get (line.run platform calm moves).2).source.waiting = [] := by
    decide +kernel
  have hattended : line.Attended platform calm world false :=
    (((Attended.start.run moves).replace hwaiting).resume layout setting).run [.consume 9]
  have hdrained : world.2.inner.source.waiting = [] := by
    decide +kernel
  exact ⟨hopens, hattended, hdrained, adapter_inStep true hopens hattended hdrained⟩

end Line

end ScriptedChat
