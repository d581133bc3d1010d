import ScriptedChat.Proofs.Conversation.Resting
import ScriptedChat.Proofs.Report

/-!
Participants wait where they can answer. A command saves a participant as it was, or as an entry or
an input left it. So in a bot whose script was not replaced since the bot was made, every
participant rests in that script, along every run from empty stores and whichever publishes fail.
What a user then does can fail for no other reason than an unknown entry point, an empty answer,
messages that come round again, or the publisher.
-/
namespace ScriptedChat

namespace Step

/-- Whether a step replaces the script of a bot. -/
def Replaces (id : Uuid) (step : Step) : Prop :=
  step.Committed ∧ ∃ owner entries blocks, step.command = .setScript id owner entries blocks

end Step

/-- A bot was made, and its script was not replaced since. -/
def Unreplaced (history : List Step) (id : Uuid) : Prop :=
  Latest (fun step (_ : Unit) => step.Creates id) (Step.Replaces id) history ()

namespace Memory

variable {m : Memory} {id : Uuid}

/-- Whether all participants of a bot rest in a script. -/
def AllRest (m : Memory) (id : Uuid) (script : Script) : Prop :=
  ∀ user p, m.participants.get? ⟨id, user⟩ = some p → p.Rests script

theorem AllRest.participantAt {script : Script} (h : m.AllRest id script) (user : UserId) :
    (m.participantAt ⟨id, user⟩).Rests script := by
  cases hp : m.participants.get? ⟨id, user⟩ with
  | none =>
    rw [Memory.participantAt, hp]
    exact Participant.Rests.fresh script ⟨id, user⟩
  | some p =>
    rw [participantAt_of_get? hp]
    exact h user p hp

/-- A bot that is saved in the place of one with the same script. -/
theorem script_of_saveBot {other : Uuid} {bot changed after : Bot}
    (hbot : m.bots.get? other = some bot)
    (hafter : (m.saveBot changed).bots.get? id = some after) (hid : changed.id = bot.id)
    (hscript : changed.script = bot.script) :
    ∃ before, m.bots.get? id = some before ∧ before.script = after.script := by
  rw [get?_saveBot] at hafter
  split at hafter
  · rename_i heq
    cases hafter
    have hother : bot.id = other := Table.key_of_get? hbot
    exact ⟨bot, by rw [← heq, hid, hother, hbot], hscript.symm⟩
  · exact ⟨after, hafter, rfl⟩

theorem get?_of_dropBot {other : Uuid} {bot : Bot}
    (h : (m.dropBot other).bots.get? id = some bot) : m.bots.get? id = some bot := by
  rw [get?_dropBot] at h
  split at h
  · cases h
  · exact h

theorem participant_of_dropBot {address : Address} {p : Participant}
    (h : (m.dropBot id).participants.get? address = some p) :
    m.participants.get? address = some p := by
  rw [dropBot, Table.get?_filter] at h
  exact (Option.filter_eq_some_iff.1 h).1

/-- A participant that is stored after one was saved is that one or was stored before. -/
theorem participant_of_saveParticipant {target address : Address} {p q : Participant}
    (haddress : p.address = target)
    (hq : (m.saveParticipant p).participants.get? address = some q) :
    m.participants.get? address = some q ∨ target = address ∧ p = q := by
  rw [get?_saveParticipant, haddress] at hq
  split at hq
  · rename_i hsame
    exact Or.inr ⟨hsame, Option.some.inj hq⟩
  · exact Or.inl hq

end Memory

namespace Engine

open ScriptedChat.Action

variable {π : Type} {publisher : Publisher π} {layout : Memory.Layout} {setting : Setting}
  {m : Memory} {w : π} {c : Command} {r : Except Error Reply} {world : Memory × π} {id : Uuid}

/-- A stored bot has the script that it had before, unless the command made the bot or replaced its
script. -/
theorem Effect.script_kept (h : Effect publisher setting m w c r world) {bot : Bot}
    (hbot : world.1.bots.get? id = some bot) :
    (∃ before, m.bots.get? id = some before ∧ before.script = bot.script) ∨
      Step.Creates id ⟨m, c, r⟩ ∨ Step.Replaces id ⟨m, c, r⟩ := by
  cases h with
  | refused => exact Or.inl ⟨bot, hbot, rfl⟩
  | created draft new hnew hfree =>
    obtain ⟨_, _, script, _, rfl⟩ := Bot.create_ok_iff.1 hnew
    rw [Memory.get?_saveBot] at hbot
    split at hbot
    · rename_i hid
      exact Or.inr (Or.inl ⟨Or.inl ⟨_, rfl⟩, draft, rfl, hid⟩)
    · exact Or.inl ⟨bot, hbot, rfl⟩
  | scriptSet other owner entries blocks old changed hold howner hchange =>
    obtain ⟨script, _, _, rfl⟩ := Bot.setScript_ok_iff.1 hchange
    rw [Memory.get?_saveBot] at hbot
    split at hbot
    · rename_i hid
      have hother : old.id = other := Table.key_of_get? hold
      have hid : other = id := hother.symm.trans hid
      subst hid
      exact Or.inr (Or.inr ⟨Or.inl ⟨_, rfl⟩, owner, entries, blocks, rfl⟩)
    · exact Or.inl ⟨bot, hbot, rfl⟩
  | mailingAdded other owner mailing old changed hold howner hchange =>
    obtain ⟨_, _, _, rfl⟩ := Bot.addMailing_ok_iff.1 hchange
    exact Or.inl (Memory.script_of_saveBot hold hbot rfl rfl)
  | started other owner old hold => exact Or.inl (Memory.script_of_saveBot hold hbot rfl rfl)
  | startFailed other owner old reason hold =>
    exact Or.inl (Memory.script_of_saveBot hold hbot rfl rfl)
  | stopped other owner old hold => exact Or.inl (Memory.script_of_saveBot hold hbot rfl rfl)
  | stopFailed => exact Or.inl ⟨bot, hbot, rfl⟩
  | deletedIdle => exact Or.inl ⟨bot, Memory.get?_of_dropBot hbot, rfl⟩
  | deletedRunning => exact Or.inl ⟨bot, Memory.get?_of_dropBot hbot, rfl⟩
  | deleteFailed => exact Or.inl ⟨bot, hbot, rfl⟩
  | entered => exact Or.inl ⟨bot, hbot, rfl⟩
  | processed => exact Or.inl ⟨bot, hbot, rfl⟩
  | mailed other owner name old mailing hold =>
    rw [(mailing_eq publisher mailing m w (Table.key_of_get? hold)).1] at hbot
    exact Or.inl ⟨bot, hbot, rfl⟩
  | resumed => exact Or.inl ⟨bot, hbot, rfl⟩
  | resumeFailed => exact Or.inl ⟨bot, hbot, rfl⟩
  | resumedNone => exact Or.inl ⟨bot, hbot, rfl⟩

/-- A stored participant was stored before, or is what an entry or an input made of it. -/
theorem Effect.participant_cases (h : Effect publisher setting m w c r world) {address : Address}
    {q : Participant} (hq : world.1.participants.get? address = some q) :
    m.participants.get? address = some q ∨
      ∃ bot, m.bots.get? address.bot = some bot ∧
        ((∃ key messages,
            (m.participantAt address).enter bot.script key = .ok (messages, q)) ∨
          ∃ input t, (m.participantAt address).reply bot.script input = .ok (t, q)) := by
  cases h with
  | refused => exact Or.inl hq
  | created => exact Or.inl hq
  | scriptSet => exact Or.inl hq
  | mailingAdded => exact Or.inl hq
  | started => exact Or.inl hq
  | startFailed => exact Or.inl hq
  | stopped => exact Or.inl hq
  | stopFailed => exact Or.inl hq
  | deletedIdle => exact Or.inl (Memory.participant_of_dropBot hq)
  | deletedRunning => exact Or.inl (Memory.participant_of_dropBot hq)
  | deleteFailed => exact Or.inl hq
  | entered target key bot messages p hbot henter =>
    have haddress := (Participant.enter_address henter).trans (m.participantAt_address target)
    rcases Memory.participant_of_saveParticipant haddress hq with hq | ⟨hsame, hpq⟩
    · exact Or.inl hq
    · subst hsame hpq
      exact Or.inr ⟨bot, hbot, Or.inl ⟨key, messages, henter⟩⟩
  | processed target input bot t p hbot hreply =>
    have haddress := (Participant.reply_address hreply).trans (m.participantAt_address target)
    rcases Memory.participant_of_saveParticipant haddress hq with hq | ⟨hsame, hpq⟩
    · exact Or.inl hq
    · subst hsame hpq
      exact Or.inr ⟨bot, hbot, Or.inr ⟨input, t, hreply⟩⟩
  | mailed other owner name bot mailing hbot =>
    rw [(mailing_eq publisher mailing m w (Table.key_of_get? hbot)).2] at hq
    split at hq
    · rename_i hother
      obtain ⟨p, hp, rfl⟩ := Option.map_eq_some_iff.1 hq
      split
      · unfold Participant.mailed
        split
        · rename_i messages after henter
          rw [← Memory.participantAt_of_get? hp] at henter
          exact Or.inr ⟨bot, hother ▸ hbot, Or.inl ⟨mailing.entryKey, messages, henter⟩⟩
        · exact Or.inl hp
      · exact Or.inl hp
    · exact Or.inl hq
  | resumed => exact Or.inl hq
  | resumeFailed => exact Or.inl hq
  | resumedNone => exact Or.inl hq

/-- Participants that rest go on resting. -/
theorem Effect.allRest (h : Effect publisher setting m w c r world) (hm : m.Sound) {bot : Bot}
    (hbot : m.bots.get? id = some bot) (hrest : m.AllRest id bot.script) :
    world.1.AllRest id bot.script := by
  intro user q hq
  rcases h.participant_cases hq with hp | ⟨bot', hbot', hmoved⟩
  · exact hrest user q hp
  · have hsame : bot' = bot := Option.some.inj (hbot'.symm.trans hbot)
    subst hsame
    have hscript := hm.accepted_of_get? hbot
    rcases hmoved with ⟨key, messages, henter⟩ | ⟨input, t, hreply⟩
    · exact (hrest.participantAt user).enter hscript henter
    · exact (hrest.participantAt user).reply hscript hreply

/-- A bot that is made has no participants. -/
theorem Effect.allRest_of_creates (h : Effect publisher setting m w c r world) (hm : m.Sound)
    {script : Script} (hnew : Step.Creates id ⟨m, c, r⟩)
    (hstored : (world.1.bots.get? id).isSome) : world.1.AllRest id script := by
  have hfree := h.free_of_creates hnew
  have hsame := (h.stored_or_creates hstored).resolve_left (by simp [hfree])
  intro user p hp
  rw [hsame.2] at hp
  have haddress : p.address = ⟨id, user⟩ := Table.key_of_get? hp
  have hkept := hm.kept p (Table.mem_of_get? hp)
  rw [haddress, hfree] at hkept
  cases hkept

/-- Along a run from empty stores the participants of a bot rest in its script until it is
replaced. -/
theorem history_allRest (publisher : Publisher π) (w : π) (requests : List Occasion)
    {bot : Bot} (hbot : (carryOutAll publisher ({}, w) requests).1.bots.get? id = some bot)
    (hscript : Unreplaced (history publisher ({}, w) requests) id) :
    (carryOutAll publisher ({}, w) requests).1.AllRest id bot.script := by
  induction requests using List.reverseRecOn generalizing bot with
  | nil => exact absurd hscript Latest.not_nil
  | append_singleton requests request ih =>
    have hm := (history_tracks publisher w requests).1
    rw [carryOutAll_concat] at hbot ⊢
    rw [history_concat, Unreplaced, Latest.concat_iff] at hscript
    generalize carryOutAll publisher ({}, w) requests = world at hbot hscript hm ih ⊢
    obtain ⟨m, w'⟩ := world
    have heffect := handle_effect publisher request.layout request.setting m w' request.command
    rcases hscript with hnew | ⟨hkept, hscript⟩
    · exact heffect.allRest_of_creates hm hnew (by rw [carryOut] at hbot; rw [hbot]; rfl)
    · rcases heffect.script_kept hbot with ⟨before, hbefore, hsame⟩ | hnew | hreplaced
      · rw [← hsame]
        exact heffect.allRest hm hbefore (ih hbefore hscript)
      · exact heffect.allRest_of_creates hm hnew (by rw [carryOut] at hbot; rw [hbot]; rfl)
      · exact absurd hreplaced hkept

theorem history_commands (publisher : Publisher π) (world : Memory × π)
    (requests : List Occasion) :
    (history publisher world requests).map Step.command = requests.map Occasion.command := by
  induction requests generalizing world with
  | nil => rfl
  | cons request rest ih =>
    rw [history, List.map_cons, List.map_cons, ih]

/-- The script of a stored bot was not replaced if nobody ever asked for it. -/
theorem unreplaced_of_stored (publisher : Publisher π) (w : π) {requests : List Occasion}
    (hstored : ((carryOutAll publisher ({}, w) requests).1.bots.get? id).isSome)
    (hnone : ∀ c ∈ requests.map Occasion.command, ∀ owner entries blocks,
      c ≠ .setScript id owner entries blocks) :
    Unreplaced (history publisher ({}, w) requests) id := by
  obtain ⟨earlier, creation, later, hhistory, hcreation, _⟩ :=
    (history_tracks publisher w requests).2 id hstored
  refine ⟨earlier, creation, later, hhistory, hcreation, ?_⟩
  intro step hstep hreplaces
  obtain ⟨_, owner, entries, blocks, hcommand⟩ := hreplaces
  refine hnone step.command ?_ owner entries blocks hcommand
  rw [← history_commands publisher ({}, w) requests, hhistory]
  exact List.mem_map_of_mem (by simp [hstep])

/-- How a bot takes what a user does: why it can fail, and that nothing happens to a user who is at
the end of the script. -/
structure Attends (publisher : Publisher π) (world : Memory × π) (address : Address) : Prop where
  enter_fails : ∀ layout setting key e,
    (exec ((inMemory publisher layout).handle setting (.enter address key)) world).1 = .error e →
      e = .entryNotFound key ∨ (∃ s, e = .runawayScript s) ∨ ∃ reason, e = .publish reason
  process_fails : ∀ layout setting input e,
    (exec ((inMemory publisher layout).handle setting (.process address input)) world).1 =
        .error e →
      e = .invalidInput (.emptyAnswer (world.1.participantAt address).state) ∨
        (∃ s, e = .runawayScript s) ∨ ∃ reason, e = .publish reason
  invalid_iff : ∀ layout setting input,
    (∃ fault, (exec ((inMemory publisher layout).handle setting (.process address input)) world).1 =
        .error (.invalidInput fault)) ↔
      input = "" ∧ (world.1.participantAt address).state ≠ finished
  finished_stays : ∀ layout setting input, (world.1.participantAt address).state = finished →
    exec ((inMemory publisher layout).handle setting (.process address input)) world =
      (.ok (.transition {}), (world.1.saveParticipant (world.1.participantAt address), world.2))
  stored_stays : ∀ layout setting input p, world.1.participants.get? address = some p →
    p.state = finished →
      exec ((inMemory publisher layout).handle setting (.process address input)) world =
        (.ok (.transition {}), world)

/-- Where messages are announced after a step that succeeded, only the publisher can fail. -/
theorem error_of_announce {address : Address} {messages : List Message} {reply : Reply} {e : Error}
    (h : (announce publisher address messages w).1.map (fun _ => reply) = .error e) :
    ∃ reason, e = .publish reason := by
  rcases announce_committed publisher address messages w {} .resume reply with
    ⟨_, hok⟩ | ⟨reason, herror⟩
  · cases h.symm.trans hok
  · cases h.symm.trans herror
    exact ⟨reason, rfl⟩

/-- An input for a user at the end of the script saves the participant as it is. -/
theorem exec_process_of_finished {address : Address} {bot : Bot}
    (hbot : m.bots.get? address.bot = some bot)
    (hfin : (m.participantAt address).state = finished) (setting : Setting) (input : String) :
    exec ((inMemory publisher layout).handle setting (.process address input)) (m, w) =
      (.ok (.transition {}), (m.saveParticipant (m.participantAt address), w)) := by
  rw [exec_process publisher setting w hbot (Participant.reply_of_finished hfin)]
  rfl

/-- A bot whose participants rest attends to each of its users. -/
theorem attends_of_allRest {bot : Bot} (hm : m.Sound) (hbot : m.bots.get? id = some bot)
    (hrest : m.AllRest id bot.script) (w : π) (user : UserId) :
    Attends publisher (m, w) ⟨id, user⟩ where
  enter_fails layout setting key e herror := by
    cases henter : (m.participantAt ⟨id, user⟩).enter bot.script key with
    | error e' =>
      rw [exec_enter_error publisher setting w hbot henter] at herror
      cases herror
      rcases Participant.enter_error (hm.accepted_of_get? hbot) henter with hkey | hrunaway
      · exact Or.inl hkey
      · exact Or.inr (Or.inl hrunaway)
    | ok outcome =>
      obtain ⟨messages, q⟩ := outcome
      rw [exec_enter publisher setting w hbot henter] at herror
      exact Or.inr (Or.inr (error_of_announce herror))
  process_fails layout setting input e herror := by
    cases hreply : (m.participantAt ⟨id, user⟩).reply bot.script input with
    | error e' =>
      rw [exec_process_error publisher setting w hbot hreply] at herror
      cases herror
      rcases (hrest.participantAt user).reply_error hreply with ⟨hinvalid, _⟩ | hrunaway
      · exact Or.inl hinvalid
      · exact Or.inr (Or.inl hrunaway)
    | ok outcome =>
      obtain ⟨t, q⟩ := outcome
      rw [exec_process publisher setting w hbot hreply] at herror
      exact Or.inr (Or.inr (error_of_announce herror))
  invalid_iff layout setting input := by
    constructor
    · intro h
      obtain ⟨fault, herror⟩ := h
      cases hreply : (m.participantAt ⟨id, user⟩).reply bot.script input with
      | error e =>
        rw [exec_process_error publisher setting w hbot hreply] at herror
        cases herror
        rcases (hrest.participantAt user).reply_error hreply with ⟨_, hempty⟩ | ⟨s, hrunaway⟩
        · exact hempty
        · cases hrunaway
      | ok outcome =>
        obtain ⟨t, q⟩ := outcome
        rw [exec_process publisher setting w hbot hreply] at herror
        obtain ⟨reason, hpublish⟩ := error_of_announce herror
        cases hpublish
    · intro h
      obtain ⟨rfl, hfin⟩ := h
      have hreply := (hrest.participantAt user).reply_empty hfin
      exact ⟨_, by rw [exec_process_error publisher setting w hbot hreply]⟩
  finished_stays layout setting input hfin := exec_process_of_finished hbot hfin setting input
  stored_stays layout setting input p hp hfin := by
    have hat : m.participantAt ⟨id, user⟩ = p := Memory.participantAt_of_get? hp
    have haddress : p.address = ⟨id, user⟩ := Table.key_of_get? hp
    rw [exec_process_of_finished hbot (by rw [hat, hfin]) setting input, hat,
      Memory.saveParticipant_self (by rw [haddress, hp])]

/-- At the end of every run from empty stores, whatever the publisher does, the participants of a
bot with an unreplaced script wait where they can answer, and the bot attends to all its users. -/
theorem participants_wait (publisher : Publisher π) (w : π) (requests : List Occasion)
    {bot : Bot} (hbot : (carryOutAll publisher ({}, w) requests).1.bots.get? id = some bot)
    (hscript : Unreplaced (history publisher ({}, w) requests) id) :
    (∀ p ∈ (carryOutAll publisher ({}, w) requests).1.participants.rows, p.address.bot = id →
      p.Rests bot.script) ∧
    ∀ user, Attends publisher (carryOutAll publisher ({}, w) requests) ⟨id, user⟩ := by
  have hrest := history_allRest publisher w requests hbot hscript
  have hm := (history_tracks publisher w requests).1
  refine ⟨?_, fun user => attends_of_allRest hm hbot hrest _ user⟩
  intro p hp hid
  subst hid
  exact hrest p.address.user p (Table.get?_key_of_mem hp)

/-- A bot is deleted and made anew; a publish fails, a mailing takes a user back, and two messages
lead to each other. -/
theorem participants_wait_loop :
    let id : Uuid := ⟨1⟩
    let draft : BotDraft := ⟨id, 5, "Shop", "token", [⟨"start", 1⟩, ⟨"again", 3⟩],
      [⟨1, 2, "Hello", "Hello", .message⟩, ⟨2, 3, "Name", "Who are you?", .question⟩,
        ⟨3, 0, "Size", "Which size?", .selection [⟨"S", 0⟩, ⟨"L", 4⟩]⟩,
        ⟨4, 5, "Sorry", "Sold out", .message⟩, ⟨5, 4, "Wait", "Wait", .message⟩]⟩
    let requests : List Occasion := [.createBot draft, .enter ⟨id, 7⟩ "start",
      .deleteBot id 5, .createBot draft, .addMailing id 5 ⟨"sizes", "again", 2⟩,
      .enter ⟨id, 7⟩ "start", .process ⟨id, 9⟩ "Eve", .enter ⟨id, 9⟩ "start",
      .process ⟨id, 9⟩ "Ann", .sendMailing id 5 "sizes", .process ⟨id, 7⟩ "L",
      .process ⟨id, 9⟩ "S"].map fun c => ⟨.flat, ⟨⟨0⟩, .permissive⟩, c⟩
    let bus : Recorder := { failing := [2, 4] }
    ∃ bot, (carryOutAll Recorder.publish ({}, bus) requests).1.bots.get? id = some bot ∧
      Unreplaced (history Recorder.publish ({}, bus) requests) id ∧
      (∀ p ∈ (carryOutAll Recorder.publish ({}, bus) requests).1.participants.rows,
        p.address.bot = id → p.Rests bot.script) ∧
      ∀ user, Attends Recorder.publish (carryOutAll Recorder.publish ({}, bus) requests)
        ⟨id, user⟩ := by
  intro id draft requests bus
  have hstored :
      ((carryOutAll Recorder.publish ({}, bus) requests).1.bots.get? id).isSome = true := by
    decide +kernel
  have hscript : Unreplaced (history Recorder.publish ({}, bus) requests) id := by
    apply unreplaced_of_stored Recorder.publish bus hstored
    simp [requests]
  obtain ⟨bot, hbot⟩ := Option.isSome_iff_exists.1 hstored
  exact ⟨bot, hbot, hscript, participants_wait Recorder.publish bus requests hbot hscript⟩

end Engine

end ScriptedChat
