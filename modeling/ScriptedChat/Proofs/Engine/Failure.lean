import ScriptedChat.Proofs.Bus.AllOrNothing
import ScriptedChat.Proofs.Engine.Handling

/-!
What a command that fails leaves behind. A command is refused before it changes or publishes
anything, or it fails because its only batch was refused. A start then has marked its bot, an
entry and an input are saved as if they had been published, and the other commands have changed
nothing; a mailing does not fail once it has found its audience.
-/
namespace ScriptedChat.Engine

open ScriptedChat.Action

variable {π : Type} {publisher : Publisher π} {layout : Memory.Layout} {setting : Setting}
  {m : Memory} {w : π} {c : Command} {e : Error} {world : Memory × π}

/-- Whether stores are what a command leaves that succeeds, because every batch is taken. -/
def Completes (setting : Setting) (m : Memory) (c : Command) (m' : Memory) : Prop :=
  ∀ layout, ∃ reply,
    exec ((inMemory Publisher.accepting layout).handle setting c) (m, ()) = (.ok reply, (m', ()))

/-- What a command leaves in the stores when its publish fails. Commands that publish nothing, and
mailings, do not fail in this way. -/
def LeavesUnpublished (setting : Setting) (m m' : Memory) : Command → Prop
  | .startBot id owner => ∃ bot, m.bots.get? id = some bot ∧ bot.owner = owner ∧
      m' = m.saveBot (bot.setStatus .failed setting.now)
  | .enter address key => Completes setting m (.enter address key) m' ∧
      ∃ q, q.address = address ∧ m' = m.saveParticipant q
  | .process address input => Completes setting m (.process address input) m' ∧
      ∃ q, q.address = address ∧ m' = m.saveParticipant q
  | .stopBot _ _ | .deleteBot _ _ | .resume => m' = m
  | .createBot _ | .setScript _ _ _ _ | .addMailing _ _ _ | .sendMailing _ _ _ => False

/-- A batch that is refused adds nothing to what was taken. -/
theorem taken_handed_of_error {taken : π → List Envelope} {batch : List Envelope}
    (hpublisher : publisher.AllOrNothing taken) (h : published publisher batch w = .error e) :
    taken (handed publisher batch w) = taken w := by
  unfold published at h
  cases hrun : ((publisher batch).run w).1 with
  | ok _ =>
    rw [hrun] at h
    cases h
  | error reason => exact hpublisher.refuses batch w reason hrun

theorem error_of_published {batch : List Envelope}
    (h : published publisher batch w = .error e) : ∃ reason, e = .publish reason := by
  rcases published_eq publisher batch w with hok | ⟨reason, herror⟩
  · rw [hok] at h
    cases h
  · rw [herror] at h
    cases h
    exact ⟨reason, rfl⟩

theorem announce_accepting (address : Address) (messages : List Message) :
    announce Publisher.accepting address messages () = (.ok (), ()) := by
  unfold announce
  split
  · rfl
  · rfl

/-- Messages are not announced when their batch is refused; the reply is lost with them. -/
theorem announce_error {address : Address} {messages : List Message} {reply : Reply}
    (h : .error e = (announce publisher address messages w).1.map fun _ => reply) :
    published publisher (addressed address messages) w = .error e ∧
      (announce publisher address messages w).2 =
        handed publisher (addressed address messages) w := by
  unfold announce at h ⊢
  split at h
  · cases h
  · rename_i hsome
    rw [if_neg hsome]
    exact ⟨Outcome.map_error_iff.1 h.symm, rfl⟩

theorem completes_enter {address : Address} {key : String} {bot : Bot} {messages : List Message}
    {q : Participant} (setting : Setting) (hbot : m.bots.get? address.bot = some bot)
    (henter : (m.participantAt address).enter bot.script key = .ok (messages, q)) :
    Completes setting m (.enter address key) (m.saveParticipant q) := by
  refine fun _ => ⟨.messages messages, ?_⟩
  rw [exec_enter _ setting () hbot henter, announce_accepting]
  rfl

theorem completes_process {address : Address} {input : String} {bot : Bot} {t : Transition}
    {q : Participant} (setting : Setting) (hbot : m.bots.get? address.bot = some bot)
    (hreply : (m.participantAt address).reply bot.script input = .ok (t, q)) :
    Completes setting m (.process address input) (m.saveParticipant q) := by
  refine fun _ => ⟨.transition t, ?_⟩
  rw [exec_process _ setting () hbot hreply, announce_accepting]
  rfl

/-- How a command fails: it is refused and leaves no trace, or its batch is refused. -/
inductive Fails (publisher : Publisher π) (setting : Setting) (m : Memory) (w : π) (c : Command)
    (e : Error) : Memory × π → Prop
  | refused (he : Refusal e) : Fails publisher setting m w c e (m, w)
  | unpublished (m' : Memory) (batch : List Envelope)
      (hpublish : published publisher batch w = .error e)
      (hleaves : LeavesUnpublished setting m m' c) :
      Fails publisher setting m w c e (m', handed publisher batch w)

theorem Effect.fails (h : Effect publisher setting m w c (.error e) world) :
    Fails publisher setting m w c e world := by
  generalize hr : (Except.error e : Except Error Reply) = r at h
  cases h with
  | refused c e he =>
    cases hr
    exact .refused he
  | startFailed id owner bot reason hbot howner hpublish =>
    cases hr
    exact .unpublished _ _ hpublish ⟨bot, hbot, howner, rfl⟩
  | stopFailed id owner bot reason hbot howner hpublish =>
    cases hr
    exact .unpublished _ _ hpublish rfl
  | deleteFailed id owner bot reason hbot howner hrunning hpublish =>
    cases hr
    exact .unpublished _ _ hpublish rfl
  | resumeFailed started reason hstarted hne hpublish =>
    cases hr
    exact .unpublished _ _ hpublish rfl
  | entered address key bot messages q hbot henter =>
    obtain ⟨hpublish, hhanded⟩ := announce_error hr
    have haddress : q.address = address := by
      rw [Participant.enter_address henter, Memory.participantAt_address]
    rw [hhanded]
    exact .unpublished _ _ hpublish ⟨completes_enter setting hbot henter, q, haddress, rfl⟩
  | processed address input bot t q hbot hreply =>
    obtain ⟨hpublish, hhanded⟩ := announce_error hr
    have haddress : q.address = address := by
      rw [Participant.reply_address hreply, Memory.participantAt_address]
    rw [hhanded]
    exact .unpublished _ _ hpublish ⟨completes_process setting hbot hreply, q, haddress, rfl⟩
  | created => cases hr
  | scriptSet => cases hr
  | mailingAdded => cases hr
  | started => cases hr
  | stopped => cases hr
  | deletedIdle => cases hr
  | deletedRunning => cases hr
  | mailed => cases hr
  | resumed => cases hr
  | resumedNone => cases hr

/-- A command that fails for another reason than its publish leaves the stores and the publisher
as they were. One whose publish fails hands over nothing that is taken, and leaves in the stores
what such a command leaves. -/
theorem failure_leaves {taken : π → List Envelope} (hpublisher : publisher.AllOrNothing taken)
    (he : (exec ((inMemory publisher layout).handle setting c) (m, w)).1 = .error e) :
    let after := (exec ((inMemory publisher layout).handle setting c) (m, w)).2
    taken after.2 = taken w ∧
      ((∀ reason, e ≠ .publish reason) → after = (m, w)) ∧
      (∀ reason, e = .publish reason → LeavesUnpublished setting m after.1 c) := by
  intro after
  have heffect := handle_effect publisher layout setting m w c
  rw [he] at heffect
  have hfails : Fails publisher setting m w c e after := heffect.fails
  generalize after = world at hfails
  cases hfails with
  | refused hrefusal =>
    refine ⟨rfl, fun _ => rfl, ?_⟩
    intro reason heq
    rw [heq] at hrefusal
    exact hrefusal.elim
  | unpublished m' batch hpublish hleaves =>
    refine ⟨taken_handed_of_error hpublisher hpublish, ?_, fun _ _ => hleaves⟩
    intro hother
    obtain ⟨reason, hreason⟩ := error_of_published hpublish
    exact absurd hreason (hother reason)

/-- A user enters while the bus is down. The entry is saved and nobody hears of it. -/
theorem failure_leaves_outage :
    let blocks : List Block := [⟨1, 2, "Hi", "Hello", .message⟩,
      ⟨2, 0, "Name", "Who are you?", .question⟩]
    let bot : Bot := ⟨⟨1⟩, 10, "Shop", "123:abc", .stopped, .restore [⟨"start", 1⟩] blocks, [],
      ⟨0⟩, ⟨0⟩⟩
    let m : Memory := Memory.saveBot {} bot
    let down : Recorder := { taken := [[.lifecycle (.stop ⟨1⟩)]], down := true }
    let run := exec ((inMemory Recorder.publish .flat).handle ⟨⟨5⟩, .reject⟩
      (.enter ⟨⟨1⟩, 7⟩ "start")) (m, down)
    run.1 = .error (.publish "bus closed") ∧
      run.2.2.taken.flatten = [.lifecycle (.stop ⟨1⟩)] ∧
      LeavesUnpublished ⟨⟨5⟩, .reject⟩ m run.2.1 (.enter ⟨⟨1⟩, 7⟩ "start") := by
  intro blocks bot m down run
  have hrun : run.1 = .error (.publish "bus closed") := by decide +kernel
  obtain ⟨htaken, _, hleaves⟩ := failure_leaves Recorder.allOrNothing hrun
  exact ⟨hrun, htaken, hleaves "bus closed" rfl⟩

end ScriptedChat.Engine
