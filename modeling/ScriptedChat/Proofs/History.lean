import ScriptedChat.Proofs.Engine.Sound
import ScriptedChat.Proofs.Conversation.Reentry

/-!
What a command tells about a user of a bot. A step of a history is a command together with the
stores before it and the outcome. It is read off a step whether it is a committed command of the
user, which answer it gives and which answers it forgets. The participant after the step is the
one before it changed in just this way; all other commands leave it alone.
-/
namespace ScriptedChat

/-- A command that was carried out, with the stores before it. -/
structure Step where
  before : Memory
  command : Command
  outcome : Except Error Reply

namespace Step

/-- Whether a command went through, up to its publish. -/
def Committed (step : Step) : Prop :=
  (∃ reply, step.outcome = .ok reply) ∨ ∃ reason, step.outcome = .error (.publish reason)

/-- Whether a step makes a bot. -/
def Creates (id : Uuid) (step : Step) : Prop :=
  step.Committed ∧ ∃ draft, step.command = .createBot draft ∧ draft.id = id

/-- Whether a step is a committed entry or a committed input of a user. -/
def Visits (address : Address) (step : Step) : Prop :=
  step.Committed ∧ ((∃ key, step.command = .enter address key) ∨
    ∃ input, step.command = .process address input)

/-- Whether a step is a committed input of a user who is parked at a block that waits. -/
def Tells (address : Address) (s : State) (step : Step) (text : String) : Prop :=
  step.Committed ∧ step.command = .process address text ∧
    (step.before.participantAt address).state = s ∧
    ∃ bot b, step.before.bots.get? address.bot = some bot ∧ bot.script.block? s = some b ∧
      b.isMessage = false

/-- Whether a step takes a user to an entry point of a script: on request, or by a mailing that
finds the user waiting and whose entry succeeds. -/
def Enters (address : Address) (script : Script) (e : EntryPoint) (step : Step) : Prop :=
  step.Committed ∧ ∃ bot, step.before.bots.get? address.bot = some bot ∧ bot.script = script ∧
    ((∃ key, step.command = .enter address key ∧ script.entry? key = some e) ∨
      ∃ owner name mailing p outcome, step.command = .sendMailing address.bot owner name ∧
        bot.mailing? name = some mailing ∧
        step.before.participants.get? address = some p ∧ p.state = mailing.requiredState ∧
        p.enter script mailing.entryKey = .ok outcome ∧
        script.entry? mailing.entryKey = some e)

/-- Whether a step takes a user to an entry point whose target reaches a state. -/
def Erases (address : Address) (s : State) (step : Step) : Prop :=
  ∃ script e, step.Enters address script e ∧ Graph.Reaches script.blocks.rows e.state s

/-- Whether a step makes earlier answers of a user at a state void. -/
def Voids (address : Address) (s : State) (step : Step) : Prop :=
  (∃ text, step.Tells address s text) ∨ step.Erases address s

end Step

/-- What a user is known to have answered at a state. -/
def Memory.told (m : Memory) (address : Address) (s : State) : Option String :=
  ((m.participantAt address).answerAt? s).map Answer.text

/-- Stores after a step hold of a user what they held before and what the step tells. -/
structure Step.Follows (step : Step) (address : Address) (after : Memory) : Prop where
  visited : (after.participants.get? address).isSome ↔
    step.Visits address ∨ (step.before.participants.get? address).isSome
  told : ∀ s ≠ finished, ∀ text, after.told address s = some text ↔
    step.Tells address s text ∨
      (¬ step.Voids address s ∧ step.before.told address s = some text)

/-- Whether a command is about a user. -/
def Command.Concerns (address : Address) : Command → Prop
  | .enter target _ => target = address
  | .process target _ => target = address
  | .sendMailing bot _ _ => bot = address.bot
  | _ => False

namespace Participant

variable {p q : Participant} {script : Script} {s : State}

/-- Entering forgets the answers at the states that the entry point reaches. -/
theorem answerAt?_of_enter (hscript : script.Accepted) {key : String} {messages : List Message}
    (h : p.enter script key = .ok (messages, q)) :
    ∃ e, script.entry? key = some e ∧
      (Graph.Reaches script.blocks.rows e.state s → q.answerAt? s = none) ∧
      (¬ Graph.Reaches script.blocks.rows e.state s → q.answerAt? s = p.answerAt? s) := by
  obtain ⟨e, reached, rest, he, hreached, _, rfl⟩ := enter_ok_iff.1 h
  have hmem : s ∈ reached ↔ Graph.Reaches script.blocks.rows e.state s := by
    rw [(Blocks.reachableFrom_ok hreached).1 s, and_iff_right (hscript.entry_ne_finished he)]
  refine ⟨e, he, ?_, ?_⟩
  · intro hpath
    exact answerAt?_clear_of_mem p (hmem.2 hpath)
  · intro hpath
    exact answerAt?_clear_of_not_mem p (mt hmem.1 hpath)

/-- An input is the answer at the block that waits for it. -/
theorem answerAt?_of_reply {input : String} {t : Transition} (hs : s ≠ finished)
    (h : p.reply script input = .ok (t, q)) (text : String) :
    (q.answerAt? s).map Answer.text = some text ↔
      ((p.state = s ∧ ∃ b, script.block? s = some b ∧ b.isMessage = false) ∧ input = text) ∨
      (¬ (p.state = s ∧ ∃ b, script.block? s = some b ∧ b.isMessage = false) ∧
        (p.answerAt? s).map Answer.text = some text) := by
  obtain ⟨r, hprocess, hq⟩ := reply_ok_iff.1 h
  have hfeed : p.feed script input = q := by rw [feed, h]
  have hanswers : Turn.Answers script s ⟨p, input⟩ ↔
      p.state = s ∧ ∃ b, script.block? s = some b ∧ b.isMessage = false := by
    constructor
    · intro hturn
      exact ⟨hturn.1, hturn.2.1⟩
    · intro hparked
      exact ⟨hparked.1, hparked.2, _, hprocess⟩
  rw [← hfeed, feed_answer_iff p input hs text, hanswers]

end Participant

namespace Memory

variable {m : Memory} {address : Address}

theorem participantAt_of_get? {p : Participant} (h : m.participants.get? address = some p) :
    m.participantAt address = p := by
  rw [participantAt, h]
  rfl

theorem told_of_get? {p : Participant} (h : m.participants.get? address = some p) (s : State) :
    m.told address s = (p.answerAt? s).map Answer.text := by
  rw [told, participantAt_of_get? h]

/-- Deleting a bot leaves the participants of the others alone. -/
theorem participants_dropBot {id : Uuid} (h : ((m.dropBot id).bots.get? address.bot).isSome) :
    (m.dropBot id).participants.get? address = m.participants.get? address := by
  have hne : id ≠ address.bot := by
    intro heq
    rw [get?_dropBot, if_pos heq] at h
    cases h
  exact m.get?_dropped (Ne.symm hne)

theorem told_congr {m' : Memory}
    (h : m'.participants.get? address = m.participants.get? address) (s : State) :
    m'.told address s = m.told address s := by
  rw [told, participantAt, h]
  rfl

end Memory

namespace Step

variable {step : Step} {address : Address} {after : Memory}

/-- A step takes a user to one entry point at most. -/
theorem Enters.unique {script script' : Script} {e e' : EntryPoint}
    (h : step.Enters address script e) (h' : step.Enters address script' e') :
    script = script' ∧ e = e' := by
  obtain ⟨_, bot, hbot, rfl, h⟩ := h
  obtain ⟨_, bot', hbot', rfl, h'⟩ := h'
  rw [hbot] at hbot'
  cases hbot'
  refine ⟨rfl, ?_⟩
  rcases h with ⟨key, hc, he⟩ | ⟨owner, name, mailing, p, _, hc, hmailing, _, _, _, he⟩
  · rcases h' with ⟨key', hc', he'⟩ | ⟨_, _, _, _, _, hc', _⟩
    · rw [hc] at hc'
      cases hc'
      exact Option.some.inj (he.symm.trans he')
    · rw [hc] at hc'
      cases hc'
  · rcases h' with ⟨key', hc', _⟩ | ⟨owner', name', mailing', _, _, hc', hmailing', _, _, _, he'⟩
    · rw [hc] at hc'
      cases hc'
    · rw [hc] at hc'
      cases hc'
      rw [hmailing] at hmailing'
      cases hmailing'
      exact Option.some.inj (he.symm.trans he')

theorem Enters.erases_iff {script : Script} {e : EntryPoint} {s : State}
    (h : step.Enters address script e) :
    step.Erases address s ↔ Graph.Reaches script.blocks.rows e.state s := by
  constructor
  · intro herases
    obtain ⟨script', e', h', hpath⟩ := herases
    obtain ⟨rfl, rfl⟩ := h.unique h'
    exact hpath
  · intro hpath
    exact ⟨script, e, h, hpath⟩

/-- Stores that hold of a user what they held before follow a step that tells nothing. -/
theorem follows_of_same (hvisits : ¬ step.Visits address)
    (htells : ∀ s text, ¬ step.Tells address s text)
    (henters : ∀ script e, ¬ step.Enters address script e)
    (hsame : after.participants.get? address = step.before.participants.get? address) :
    step.Follows address after where
  visited := by simp [hvisits, hsame]
  told s hs text := by
    have hvoids : ¬ step.Voids address s := by
      intro h
      rcases h with ⟨text', h⟩ | ⟨script, e, h, _⟩
      · exact htells s text' h
      · exact henters script e h
    simp [htells, hvoids, Memory.told_congr hsame]

/-- A command that is not about a user, or was refused, leaves the user alone. -/
theorem follows_of_idle (hidle : step.Committed → ¬ step.command.Concerns address)
    (hsame : after.participants.get? address = step.before.participants.get? address) :
    step.Follows address after := by
  refine follows_of_same ?_ ?_ ?_ hsame
  · intro h
    obtain ⟨hcommitted, ⟨key, hc⟩ | ⟨input, hc⟩⟩ := h
    · exact hidle hcommitted (by rw [hc]; rfl)
    · exact hidle hcommitted (by rw [hc]; rfl)
  · intro s text h
    exact hidle h.1 (by rw [h.2.1]; rfl)
  · intro script e h
    obtain ⟨hcommitted, bot, _, _, ⟨key, hc, _⟩ | ⟨_, _, _, _, _, hc, _⟩⟩ := h
    · exact hidle hcommitted (by rw [hc]; rfl)
    · exact hidle hcommitted (by rw [hc]; rfl)

/-- An entry takes the place of what it forgets. -/
theorem told_iff_of_enters (step : Step) {script : Script} (hscript : script.Accepted)
    {key : String} {messages : List Message} {q : Participant}
    (henter : (step.before.participantAt address).enter script key = .ok (messages, q))
    (hafter : after.participants.get? address = some q)
    (henters : ∀ e, script.entry? key = some e → step.Enters address script e)
    (htells : ∀ s text, ¬ step.Tells address s text) (s : State) (text : String) :
    after.told address s = some text ↔
      step.Tells address s text ∨
        (¬ step.Voids address s ∧ step.before.told address s = some text) := by
  obtain ⟨e, he, hforgets, hkeeps⟩ := Participant.answerAt?_of_enter (s := s) hscript henter
  have hvoids : step.Voids address s ↔ Graph.Reaches script.blocks.rows e.state s := by
    rw [Voids, (henters e he).erases_iff]
    simp [htells]
  rw [hvoids, Memory.told_of_get? hafter]
  by_cases hpath : Graph.Reaches script.blocks.rows e.state s
  · simp [hforgets hpath, htells, hpath]
  · simp [hkeeps hpath, htells, hpath, Memory.told]

theorem follows_of_enter {m : Memory} (hm : m.Sound) {key : String} {bot : Bot}
    {messages : List Message} {q : Participant} {r : Except Error Reply}
    (hbot : m.bots.get? address.bot = some bot)
    (henter : (m.participantAt address).enter bot.script key = .ok (messages, q))
    (hcommitted : Committed ⟨m, .enter address key, r⟩)
    (hafter : after.participants.get? address = some q) :
    Follows ⟨m, .enter address key, r⟩ address after where
  visited := by
    have hvisits : Visits address ⟨m, .enter address key, r⟩ :=
      ⟨hcommitted, Or.inl ⟨key, rfl⟩⟩
    simp [hvisits, hafter]
  told s _ text := by
    refine told_iff_of_enters ⟨m, .enter address key, r⟩ (hm.accepted_of_get? hbot) henter
      hafter ?_ ?_ s text
    · intro e he
      exact ⟨hcommitted, bot, hbot, rfl, Or.inl ⟨key, rfl, he⟩⟩
    · intro s' text' h
      cases h.2.1

theorem follows_of_reply {m : Memory} {input : String} {bot : Bot} {t : Transition}
    {q : Participant} {r : Except Error Reply} (hbot : m.bots.get? address.bot = some bot)
    (hreply : (m.participantAt address).reply bot.script input = .ok (t, q))
    (hcommitted : Committed ⟨m, .process address input, r⟩)
    (hafter : after.participants.get? address = some q) :
    Follows ⟨m, .process address input, r⟩ address after where
  visited := by
    have hvisits : Visits address ⟨m, .process address input, r⟩ :=
      ⟨hcommitted, Or.inr ⟨input, rfl⟩⟩
    simp [hvisits, hafter]
  told s hs text := by
    have htells : ∀ text', Tells address s ⟨m, .process address input, r⟩ text' ↔
        ((m.participantAt address).state = s ∧
          ∃ b, bot.script.block? s = some b ∧ b.isMessage = false) ∧ input = text' := by
      intro text'
      constructor
      · intro h
        obtain ⟨_, hc, hstate, bot', b, hbot', hb, hwaits⟩ := h
        cases hc
        rw [hbot] at hbot'
        cases hbot'
        exact ⟨⟨hstate, b, hb, hwaits⟩, rfl⟩
      · intro h
        obtain ⟨⟨hstate, b, hb, hwaits⟩, rfl⟩ := h
        exact ⟨hcommitted, rfl, hstate, bot, b, hbot, hb, hwaits⟩
    have hvoids : Voids address s ⟨m, .process address input, r⟩ ↔
        (m.participantAt address).state = s ∧
          ∃ b, bot.script.block? s = some b ∧ b.isMessage = false := by
      have herases : ¬ Erases address s ⟨m, .process address input, r⟩ := by
        intro h
        obtain ⟨_, _, ⟨_, _, _, _, ⟨_, hc, _⟩ | ⟨_, _, _, _, _, hc, _⟩⟩, _⟩ := h
        · cases hc
        · cases hc
      simp [Voids, htells, herases]
    rw [htells, hvoids, Memory.told_of_get? hafter, Memory.told]
    exact Participant.answerAt?_of_reply hs hreply text

section Mailing

variable {m : Memory} {owner : UserId} {name : String} {bot : Bot} {mailing : Mailing}
  {r : Except Error Reply}

theorem enters_mailing_iff (hbot : m.bots.get? address.bot = some bot)
    (hmailing : bot.mailing? name = some mailing)
    (hcommitted : Committed ⟨m, .sendMailing address.bot owner name, r⟩) (script : Script)
    (e : EntryPoint) :
    Enters address script e ⟨m, .sendMailing address.bot owner name, r⟩ ↔
      script = bot.script ∧ ∃ p outcome, m.participants.get? address = some p ∧
        p.state = mailing.requiredState ∧ p.enter script mailing.entryKey = .ok outcome ∧
        script.entry? mailing.entryKey = some e := by
  constructor
  · intro h
    obtain ⟨_, bot', hbot', rfl, ⟨_, hc, _⟩ | ⟨_, _, mailing', p, outcome, hc, hmailing', h⟩⟩ := h
    · cases hc
    · cases hc
      rw [hbot] at hbot'
      cases hbot'
      rw [hmailing] at hmailing'
      cases hmailing'
      exact ⟨rfl, p, outcome, h⟩
  · intro h
    obtain ⟨rfl, p, outcome, h⟩ := h
    exact ⟨hcommitted, bot, hbot, rfl, Or.inr ⟨owner, name, mailing, p, outcome, rfl, hmailing, h⟩⟩

/-- A mailing takes those whom it finds waiting to its entry point, if they can enter there. -/
theorem follows_of_mailing (hm : m.Sound) (hbot : m.bots.get? address.bot = some bot)
    (hmailing : bot.mailing? name = some mailing)
    (hcommitted : Committed ⟨m, .sendMailing address.bot owner name, r⟩)
    (hafter : after.participants.get? address = (m.participants.get? address).map fun p =>
      if p.state = mailing.requiredState then p.mailed bot mailing else p) :
    Follows ⟨m, .sendMailing address.bot owner name, r⟩ address after := by
  have henters := enters_mailing_iff hbot hmailing hcommitted
  have hvisits : ¬ Visits address ⟨m, .sendMailing address.bot owner name, r⟩ := by
    intro h
    obtain ⟨_, ⟨_, hc⟩ | ⟨_, hc⟩⟩ := h
    · cases hc
    · cases hc
  have htells : ∀ s text, ¬ Tells address s ⟨m, .sendMailing address.bot owner name, r⟩ text := by
    intro s text h
    cases h.2.1
  cases hp : m.participants.get? address with
  | none =>
    refine follows_of_same hvisits htells ?_ (by simp [hafter, hp])
    intro script e
    simp [henters, hp]
  | some p =>
    rw [hp, Option.map_some] at hafter
    by_cases hstate : p.state = mailing.requiredState
    · rw [if_pos hstate, Participant.mailed] at hafter
      cases henter : p.enter bot.script mailing.entryKey with
      | error error =>
        rw [henter] at hafter
        refine follows_of_same hvisits htells ?_ (by rw [hafter, hp])
        intro script e h
        obtain ⟨rfl, p', outcome, hp', _, hok, _⟩ := (henters script e).1 h
        rw [hp] at hp'
        cases hp'
        rw [henter] at hok
        cases hok
      | ok outcome =>
        obtain ⟨messages, q⟩ := outcome
        rw [henter] at hafter
        have henter' : (m.participantAt address).enter bot.script mailing.entryKey =
            .ok (messages, q) := by
          rw [Memory.participantAt_of_get? hp, henter]
        refine ⟨by simp [hvisits, hafter, hp], ?_⟩
        intro s _ text
        refine told_iff_of_enters ⟨m, .sendMailing address.bot owner name, r⟩
          (hm.accepted_of_get? hbot) henter' hafter ?_ htells s text
        intro e he
        exact (henters _ e).2 ⟨rfl, p, _, hp, hstate, henter, he⟩
    · rw [if_neg hstate] at hafter
      refine follows_of_same hvisits htells ?_ (by rw [hafter, hp])
      intro script e h
      obtain ⟨_, p', _, hp', hstate', _⟩ := (henters script e).1 h
      rw [hp] at hp'
      cases hp'
      exact hstate hstate'

end Mailing

end Step

namespace Engine

variable {π : Type} {publisher : Publisher π} {setting : Setting} {m : Memory} {w : π}
  {c : Command} {r : Except Error Reply} {world : Memory × π}

theorem announce_committed (publisher : Publisher π) (address : Address)
    (messages : List Message) (w : π) (m : Memory) (c : Command) (reply : Reply) :
    Step.Committed ⟨m, c, (announce publisher address messages w).1.map fun _ => reply⟩ := by
  unfold announce
  split
  · exact Or.inl ⟨reply, rfl⟩
  · rcases published_eq publisher (addressed address messages) w with h | ⟨reason, h⟩
    · exact Or.inl ⟨reply, by simp [h, Except.map]⟩
    · exact Or.inr ⟨reason, by simp [h, Except.map]⟩

/-- What a user of a bot is known to have done goes on with every command that leaves the bot
stored. -/
theorem Effect.follows (h : Effect publisher setting m w c r world) (hm : m.Sound)
    {address : Address} (hstored : (world.1.bots.get? address.bot).isSome) :
    Step.Follows ⟨m, c, r⟩ address world.1 := by
  cases h with
  | refused _ e he =>
    refine Step.follows_of_idle ?_ rfl
    intro hcommitted
    rcases hcommitted with ⟨reply, heq⟩ | ⟨reason, heq⟩
    · cases heq
    · cases heq
      exact he.elim
  | created => exact Step.follows_of_idle (fun _ h => h) rfl
  | scriptSet => exact Step.follows_of_idle (fun _ h => h) rfl
  | mailingAdded => exact Step.follows_of_idle (fun _ h => h) rfl
  | started => exact Step.follows_of_idle (fun _ h => h) rfl
  | startFailed => exact Step.follows_of_idle (fun _ h => h) rfl
  | stopped => exact Step.follows_of_idle (fun _ h => h) rfl
  | stopFailed => exact Step.follows_of_idle (fun _ h => h) rfl
  | deletedIdle id =>
    exact Step.follows_of_idle (fun _ h => h) (Memory.participants_dropBot hstored)
  | deletedRunning id =>
    exact Step.follows_of_idle (fun _ h => h) (Memory.participants_dropBot hstored)
  | deleteFailed => exact Step.follows_of_idle (fun _ h => h) rfl
  | entered target key bot messages q hbot henter =>
    have haddress : q.address = target :=
      (Participant.enter_address henter).trans (m.participantAt_address target)
    by_cases htarget : target = address
    · subst htarget
      refine Step.follows_of_enter hm hbot henter (announce_committed ..) ?_
      rw [Memory.get?_saveParticipant, if_pos haddress]
    · refine Step.follows_of_idle (fun _ h => htarget h) ?_
      rw [Memory.get?_saveParticipant, haddress, if_neg htarget]
  | processed target input bot t q hbot hreply =>
    have haddress : q.address = target :=
      (Participant.reply_address hreply).trans (m.participantAt_address target)
    by_cases htarget : target = address
    · subst htarget
      refine Step.follows_of_reply hbot hreply (announce_committed ..) ?_
      rw [Memory.get?_saveParticipant, if_pos haddress]
    · refine Step.follows_of_idle (fun _ h => htarget h) ?_
      rw [Memory.get?_saveParticipant, haddress, if_neg htarget]
  | mailed id owner name bot mailing hbot howner hmailing =>
    have hafter := (mailing_eq publisher mailing m w (Table.key_of_get? hbot)).2 address
    by_cases hid : address.bot = id
    · subst hid
      rw [if_pos rfl] at hafter
      exact Step.follows_of_mailing hm hbot hmailing (Or.inl ⟨_, rfl⟩) hafter
    · rw [if_neg hid] at hafter
      exact Step.follows_of_idle (fun _ h => hid h.symm) hafter
  | resumed => exact Step.follows_of_idle (fun _ h => h) rfl
  | resumeFailed => exact Step.follows_of_idle (fun _ h => h) rfl
  | resumedNone => exact Step.follows_of_idle (fun _ h => h) rfl

end Engine

end ScriptedChat
