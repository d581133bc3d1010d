import ScriptedChat.Proofs.Engine.Listing
import ScriptedChat.Proofs.Identifiers

/-!
What a step hands to the publisher. A step that gives orders hands over one batch with nothing
else in it; a resume gives one order for each started bot, in any order. A step that talks to users
hands over a batch of messages for each of them: an entry and an input for one user, a mailing for
everyone whom it finds waiting, one after the other. A batch that is refused leaves a trace in the
outcome of the step, except in a mailing, which goes on.
-/
namespace ScriptedChat

/-- The message that an envelope brings to a user. -/
def Envelope.messageFor (address : Address) : Envelope → Option Message
  | .message m =>
    if m.bot = address.bot.toText ∧ m.user = address.user then some ⟨m.text, m.buttons⟩ else none
  | .lifecycle _ => none

def Envelope.isOrder : Envelope → Bool
  | .message _ => false
  | .lifecycle _ => true

/-- A step orders sessions for stored bots, or a session to end, or nothing. -/
theorem Step.orders_cases (step : Step) :
    (∃ bots, step.orders = Engine.starts bots ∧
      ∀ bot ∈ bots, step.before.bots.get? bot.id = some bot) ∨
    ∃ id, step.orders = [.lifecycle (.stop id)] := by
  have hnone : ∀ bot ∈ ([] : List Bot), step.before.bots.get? bot.id = some bot :=
    fun _ h => absurd h List.not_mem_nil
  unfold orders
  split
  · refine Or.inl ⟨_, rfl, fun bot hbot => ?_⟩
    have hget := Option.mem_toList.1 hbot
    rwa [Table.key_of_get? hget]
  · exact Or.inr ⟨_, rfl⟩
  · split
    · exact Or.inr ⟨_, rfl⟩
    · exact Or.inl ⟨[], rfl, hnone⟩
  · exact Or.inl ⟨_, rfl, fun bot hbot => Table.get?_key_of_mem (List.mem_filter.1 hbot).1⟩
  · exact Or.inl ⟨[], rfl, hnone⟩

theorem Step.orders_isOrder (step : Step) : ∀ e ∈ step.orders, e.isOrder = true := by
  intro e he
  rcases step.orders_cases with ⟨bots, horders, _⟩ | ⟨id, horders⟩
  · rw [horders] at he
    obtain ⟨bot, _, rfl⟩ := List.mem_map.1 he
    rfl
  · rw [horders] at he
    rw [List.mem_singleton.1 he]
    rfl

/-- What a mailing says to a participant that it finds waiting. -/
def Participant.invitation (bot : Bot) (mailing : Mailing) (p : Participant) : List Message :=
  match p.enter bot.script mailing.entryKey with
  | .ok (messages, _) => messages
  | .error _ => []

/-- What a mailing says to a user. -/
def Memory.invitation (m : Memory) (name : String) (address : Address) : List Message :=
  match m.bots.get? address.bot, m.participants.get? address with
  | some bot, some p =>
    match bot.mailing? name with
    | some mailing => if p.state = mailing.requiredState then p.invitation bot mailing else []
    | none => []
  | _, _ => []

/-- The messages for a user that a step which went through produced. -/
def Step.produced (address : Address) (step : Step) : List Message :=
  match step.command, step.outcome with
  | .enter target _, .ok (.messages messages) => if target = address then messages else []
  | .process target _, .ok (.transition t) => if target = address then t.messages else []
  | .sendMailing id _ name, .ok _ =>
    if id = address.bot then step.before.invitation name address else []
  | _, _ => []

namespace Engine

variable {π : Type} {publisher : Publisher π}

theorem messageFor_make (address target : Address) (message : Message) :
    Envelope.messageFor address (.message (.make target.bot target.user message.text
      message.buttons)) = if target = address then some message else none := by
  by_cases htarget : target = address
  · subst htarget
    simp [Envelope.messageFor, OutboundMessage.make]
  · have hother : ¬ (target.bot.toText = address.bot.toText ∧ target.user = address.user) := by
      rintro ⟨hbot, huser⟩
      have hbot : target.bot = address.bot := Uuid.toText_injective hbot
      cases target
      cases address
      cases hbot
      cases huser
      exact htarget rfl
    simp only [Envelope.messageFor, OutboundMessage.make, hother, htarget, if_false]

theorem messagesFor_addressed (address target : Address) (messages : List Message) :
    (addressed target messages).filterMap (Envelope.messageFor address) =
      if target = address then messages else [] := by
  induction messages with
  | nil => exact (ite_self []).symm
  | cons message rest ih =>
    rw [addressed, List.map_cons, List.filterMap_cons, messageFor_make, ← addressed, ih]
    by_cases htarget : target = address
    · simp only [htarget, if_true]
    · simp only [htarget, if_false]

theorem addressed_quiet (target : Address) (messages : List Message) :
    ∀ e ∈ addressed target messages, e.isOrder = false := by
  intro e he
  obtain ⟨message, _, rfl⟩ := List.mem_map.1 he
  rfl

/-- The publisher after batches that it is handed one after the other. -/
def handedAll (publisher : Publisher π) (batches : List (List Envelope)) (w : π) : π :=
  batches.foldl (fun w batch => handed publisher batch w) w

end Engine

/-- What a step hands to the publisher, and how the publisher takes it. -/
inductive Step.Publishes {π : Type} (publisher : Publisher π) (step : Step) (w : π) : π → Prop
  | told (batches : List (List Envelope)) (horders : step.orders = [])
      (hquiet : ∀ batch ∈ batches, ∀ e ∈ batch, Envelope.isOrder e = false)
      (hproduced : ∀ address, batches.flatten.filterMap (Envelope.messageFor address) =
        step.produced address) :
      Publishes publisher step w (Engine.handedAll publisher batches w)
  | ordered (batch : List Envelope) (hbatch : batch.Perm step.orders)
      (hpublish : Engine.published publisher batch w = .ok ())
      (hproduced : ∀ address, step.produced address = []) :
      Publishes publisher step w (Engine.handed publisher batch w)
  | refused (batch : List Envelope) (e : Error) (horders : step.orders = [])
      (hpublish : Engine.published publisher batch w = .error e)
      (hproduced : ∀ address, step.produced address = []) :
      Publishes publisher step w (Engine.handed publisher batch w)

namespace Engine

variable {π : Type} {publisher : Publisher π} {setting : Setting} {m : Memory} {w : π}
  {c : Command} {r : Except Error Reply} {world : Memory × π} {bot : Bot} {mailing : Mailing}

/-- A step that hands over nothing. -/
theorem publishes_nothing {step : Step} (horders : step.orders = [])
    (hproduced : ∀ address, step.produced address = []) : step.Publishes publisher w w :=
  .told [] horders (fun _ h => absurd h List.not_mem_nil) fun address => (hproduced address).symm

/-- The batch that messages for a user make, unless there are none. -/
def batchFor (target : Address) (messages : List Message) : List (List Envelope) :=
  if messages.isEmpty then [] else [addressed target messages]

theorem batchFor_flatten (target : Address) (messages : List Message) :
    (batchFor target messages).flatten = addressed target messages := by
  cases messages with
  | nil => rfl
  | cons message rest => simp [batchFor]

theorem batchFor_quiet (target : Address) (messages : List Message) :
    ∀ batch ∈ batchFor target messages, ∀ e ∈ batch, Envelope.isOrder e = false := by
  intro batch hbatch e he
  have hmem := List.mem_flatten_of_mem hbatch he
  rw [batchFor_flatten] at hmem
  exact addressed_quiet target messages e hmem

theorem announce_handed (target : Address) (messages : List Message) (w : π) :
    (announce publisher target messages w).2 =
      handedAll publisher (batchFor target messages) w := by
  unfold announce batchFor
  split <;> rfl

/-- A step that hands over messages for one user and tells whether they were taken. -/
theorem publishes_announce {step : Step} (target : Address) (messages : List Message)
    (horders : step.orders = [])
    (hok : (announce publisher target messages w).1 = .ok () →
      ∀ address, step.produced address = if target = address then messages else [])
    (herror : ∀ e, (announce publisher target messages w).1 = .error e →
      ∀ address, step.produced address = []) :
    step.Publishes publisher w (announce publisher target messages w).2 := by
  cases hpublish : (announce publisher target messages w).1 with
  | ok _ =>
    rw [announce_handed]
    refine .told _ horders (batchFor_quiet target messages) ?_
    intro address
    rw [batchFor_flatten, messagesFor_addressed, hok hpublish]
  | error e =>
    have hsome : messages.isEmpty = false := by
      cases messages with
      | nil => cases hpublish
      | cons message rest => rfl
    have hproduced := herror e hpublish
    simp only [announce, hsome, Bool.false_eq_true, if_false] at hpublish ⊢
    exact .refused _ e horders hpublish hproduced

theorem handedAll_append (publisher : Publisher π) (batches more : List (List Envelope)) (w : π) :
    handedAll publisher (batches ++ more) w =
      handedAll publisher more (handedAll publisher batches w) :=
  List.foldl_append

/-- A mailing hands over the invitation of a user whom it finds waiting. -/
theorem mailUser_handed {user : UserId} {p : Participant}
    (hp : world.1.participants.get? ⟨bot.id, user⟩ = some p)
    (hwaits : p.state = mailing.requiredState) :
    (mailUser publisher bot mailing world user).2.2 =
      handedAll publisher (batchFor ⟨bot.id, user⟩ (p.invitation bot mailing)) world.2 := by
  have hat : world.1.participantAt ⟨bot.id, user⟩ = p := by simp [Memory.participantAt, hp]
  simp only [mailUser, hat, hwaits, if_true, Participant.invitation]
  cases p.enter bot.script mailing.entryKey with
  | error e => rfl
  | ok outcome => exact announce_handed ⟨bot.id, user⟩ outcome.1 world.2

/-- A mailing to different users who wait for it hands over their invitations. -/
theorem mailAll_handed (publisher : Publisher π) (users : List UserId) (n : Nat)
    (world : Memory × π) (hnodup : users.Nodup)
    (hwaits : ∀ user ∈ users, ∃ p, world.1.participants.get? ⟨bot.id, user⟩ = some p ∧
      p.state = mailing.requiredState) :
    ∃ batches, (mailAll publisher bot mailing users n world).2.2 =
        handedAll publisher batches world.2 ∧
      (∀ batch ∈ batches, ∀ e ∈ batch, Envelope.isOrder e = false) ∧
      ∀ address, batches.flatten.filterMap (Envelope.messageFor address) =
        if address.bot = bot.id ∧ address.user ∈ users then
          (world.1.participantAt address).invitation bot mailing
        else [] := by
  induction users generalizing n world with
  | nil => exact ⟨[], rfl, fun _ h => absurd h List.not_mem_nil, by simp⟩
  | cons user rest ih =>
    obtain ⟨huser, hrest⟩ := List.nodup_cons.1 hnodup
    obtain ⟨p, hp, hstate⟩ := hwaits user List.mem_cons_self
    have hhanded : (mailUser publisher bot mailing world user).2.2 = _ := mailUser_handed hp hstate
    have hother : ∀ address : Address, address ≠ ⟨bot.id, user⟩ →
        (mailUser publisher bot mailing world user).2.1.participants.get? address =
          world.1.participants.get? address :=
      fun _ => mailUser_others publisher hp hstate
    have hwaits' := mailUser_waits publisher huser hwaits
    generalize hnext : mailUser publisher bot mailing world user = next at hhanded hother hwaits'
    -- The others wait as before, and what they are told is settled by what they were before.
    obtain ⟨batches, hbatches, hquiet, hmessages⟩ :=
      ih (if next.1 then n + 1 else n) next.2 hrest hwaits'
    refine ⟨batchFor ⟨bot.id, user⟩ (p.invitation bot mailing) ++ batches, ?_, ?_, ?_⟩
    · simp only [mailAll, hnext]
      rw [hbatches, hhanded, handedAll_append]
    · intro batch hbatch
      rcases List.mem_append.1 hbatch with hbatch | hbatch
      · exact batchFor_quiet _ _ batch hbatch
      · exact hquiet batch hbatch
    · intro address
      rw [List.flatten_append, List.filterMap_append, batchFor_flatten, messagesFor_addressed,
        hmessages]
      by_cases heq : (⟨bot.id, user⟩ : Address) = address
      · subst heq
        have hat : world.1.participantAt ⟨bot.id, user⟩ = p := by simp [Memory.participantAt, hp]
        simp [huser, hat]
      · have hat : next.2.1.participantAt address = world.1.participantAt address := by
          rw [Memory.participantAt, hother address (Ne.symm heq), Memory.participantAt]
        have hiff : (address.bot = bot.id ∧ address.user ∈ user :: rest) ↔
            address.bot = bot.id ∧ address.user ∈ rest := by
          rw [List.mem_cons]
          constructor
          · rintro ⟨hbot, rfl | hmem⟩
            · exact absurd (by rw [← hbot]) heq
            · exact ⟨hbot, hmem⟩
          · rintro ⟨hbot, hmem⟩
            exact ⟨hbot, Or.inr hmem⟩
        rw [if_neg heq, List.nil_append, hat]
        simp only [hiff]

/-- A mailing hands over what it says to each user. -/
theorem mailing_publishes {id : Uuid} {owner : UserId} {name : String} {n : Nat}
    (hbot : m.bots.get? id = some bot) (hmailing : bot.mailing? name = some mailing) :
    Step.Publishes publisher ⟨m, .sendMailing id owner name, .ok (.count n)⟩ w
      (mailAll publisher bot mailing (audience m id mailing.requiredState) 0 (m, w)).2.2 := by
  have hid : bot.id = id := Table.key_of_get? hbot
  subst hid
  have hwaits : ∀ user ∈ audience m bot.id mailing.requiredState,
      ∃ p, m.participants.get? ⟨bot.id, user⟩ = some p ∧ p.state = mailing.requiredState :=
    fun user huser => mem_audience.1 huser
  obtain ⟨batches, hbatches, hquiet, hmessages⟩ :=
    mailAll_handed publisher _ 0 (m, w) (audience_nodup m _ _) hwaits
  rw [hbatches]
  refine .told batches rfl hquiet ?_
  intro address
  rw [hmessages]
  by_cases hother : bot.id = address.bot
  · have haddress : (⟨bot.id, address.user⟩ : Address) = address := by rw [hother]
    have hbot' : m.bots.get? address.bot = some bot := by rw [← hother, hbot]
    simp only [mem_audience, haddress, ← hother, true_and, Step.produced, if_true,
      Memory.invitation, hbot, Memory.participantAt]
    cases hp : m.participants.get? address with
    | none => simp
    | some p => by_cases hstate : p.state = mailing.requiredState <;> simp [hstate, hmailing]
  · simp [Step.produced, hother, Ne.symm hother]

/-- Every step hands over its orders, or messages, or a batch that is refused. -/
theorem Effect.publishes (h : Effect publisher setting m w c r world) :
    Step.Publishes publisher ⟨m, c, r⟩ w world.2 := by
  cases h with
  | refused c e he =>
    exact publishes_nothing (by cases c <;> rfl) (by intro address; cases c <;> rfl)
  | created => exact publishes_nothing rfl fun _ => rfl
  | scriptSet => exact publishes_nothing rfl fun _ => rfl
  | mailingAdded => exact publishes_nothing rfl fun _ => rfl
  | started id owner bot hbot howner hpublish =>
    have horders : [.lifecycle (.start id bot.token)] =
        Step.orders ⟨m, .startBot id owner, .ok .done⟩ := by
      have hid : bot.id = id := Table.key_of_get? hbot
      simp [Step.orders, hbot, starts, hid]
    exact .ordered _ (.of_eq horders) hpublish fun _ => rfl
  | startFailed id owner bot reason hbot howner hpublish =>
    exact .refused _ _ rfl hpublish fun _ => rfl
  | stopped id owner bot hbot howner hpublish => exact .ordered _ (.refl _) hpublish fun _ => rfl
  | stopFailed id owner bot reason hbot howner hpublish =>
    exact .refused _ _ rfl hpublish fun _ => rfl
  | deletedIdle id owner bot hbot howner hidle =>
    exact publishes_nothing (by simp [Step.orders, hbot, hidle]) fun _ => rfl
  | deletedRunning id owner bot hbot howner hrunning hpublish =>
    have horders : [.lifecycle (.stop id)] =
        Step.orders ⟨m, .deleteBot id owner, .ok .done⟩ := by
      simp [Step.orders, hbot, hrunning]
    exact .ordered _ (.of_eq horders) hpublish fun _ => rfl
  | deleteFailed id owner bot reason hbot howner hrunning hpublish =>
    exact .refused _ _ rfl hpublish fun _ => rfl
  | entered target key bot messages q hbot henter =>
    refine publishes_announce target messages ?_ ?_ ?_
    · cases (announce publisher target messages w).1 <;> rfl
    · intro hok address
      rw [hok]
      rfl
    · intro e herror address
      rw [herror]
      rfl
  | processed target input bot t q hbot hreply =>
    refine publishes_announce target t.messages ?_ ?_ ?_
    · cases (announce publisher target t.messages w).1 <;> rfl
    · intro hok address
      rw [hok]
      rfl
    · intro e herror address
      rw [herror]
      rfl
  | mailed id owner name bot mailing hbot howner hmailing =>
    exact mailing_publishes hbot hmailing
  | resumed started hstarted hne hpublish =>
    exact .ordered _ (hstarted.map _) hpublish fun _ => rfl
  | resumeFailed started reason hstarted hne hpublish =>
    exact .refused _ _ rfl hpublish fun _ => rfl
  | resumedNone hnone =>
    exact publishes_nothing (by simp only [Step.orders, hnone, starts, List.map_nil]) fun _ => rfl

end Engine

end ScriptedChat
