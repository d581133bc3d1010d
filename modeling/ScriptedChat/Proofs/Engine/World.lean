import ScriptedChat.Proofs.Actions
import ScriptedChat.Proofs.Layouts
import ScriptedChat.Proofs.Tables

/-!
The engine over stores in memory and a publisher with a state of its own. For each operation of
the stores it is said what its run gives; a publish leaves the stores as they are.
-/
namespace ScriptedChat

namespace Engine

variable {σ π : Type}

def storePart : Part (σ × π) σ := ⟨Prod.fst, fun t s => (s, t.2)⟩

def publisherPart : Part (σ × π) π := ⟨Prod.snd, fun t w => (t.1, w)⟩

@[simp]
theorem storePart_get (s : σ) (w : π) : storePart.get (s, w) = s := rfl

@[simp]
theorem storePart_set (s s' : σ) (w : π) : storePart.set (s, w) s' = (s', w) := rfl

/-- The engine over stores and a publisher that share nothing. -/
def ofParts (stores : Stores σ) (publisher : Publisher π) : Engine (σ × π) :=
  ⟨stores.within storePart, publisher.within publisherPart⟩

@[simp]
theorem ofParts_stores (stores : Stores σ) (publisher : Publisher π) :
    (ofParts stores publisher).stores = stores.within storePart := rfl

/-- The engine over stores in memory, while their map of bots is laid out in some way. -/
abbrev inMemory (publisher : Publisher π) (layout : Memory.Layout) : Engine (Memory × π) :=
  ofParts (Memory.stores layout) publisher

/-- A command with what there is when it is carried out: a setting, and how the map of the bots is
laid out by then. -/
structure Occasion where
  layout : Memory.Layout
  setting : Setting
  command : Command

/-- The outcome of a publish. -/
def published (publisher : Publisher π) (batch : List Envelope) (w : π) : Except Error Unit :=
  ((publisher batch).run w).1.mapError Error.ofBus

/-- The publisher after a publish. -/
def handed (publisher : Publisher π) (batch : List Envelope) (w : π) : π :=
  ((publisher batch).run w).2

theorem exec_publish (stores : Stores σ) (publisher : Publisher π) (batch : List Envelope)
    (s : σ) (w : π) :
    Action.exec ((ofParts stores publisher).publish batch) (s, w) =
      (published publisher batch w, (s, handed publisher batch w)) := rfl

theorem published_eq (publisher : Publisher π) (batch : List Envelope) (w : π) :
    published publisher batch w = .ok () ∨
      ∃ reason, published publisher batch w = .error (.publish reason) := by
  unfold published
  cases ((publisher batch).run w).1 with
  | error e => exact Or.inr ⟨e.message, rfl⟩
  | ok _ => exact Or.inl rfl

/-- The starts of bots. -/
def starts (bots : List Bot) : List Envelope :=
  bots.map fun bot => .lifecycle (.start bot.id bot.token)

/-- A resume publishes the starts of the started bots, if there are any, and leaves the stores
as they are. -/
theorem exec_resume {stores : Stores σ} (publisher : Publisher π) (setting : Setting) {s : σ}
    {bots : List Bot}
    (hlist : Action.exec (stores.botsWithStatus .started) s = (.ok bots, s)) (w : π) :
    Action.exec ((ofParts stores publisher).handle setting .resume) (s, w) =
      if bots = [] then (.ok (.count 0), (s, w))
      else ((published publisher (starts bots) w).map fun _ => .count bots.length,
        (s, handed publisher (starts bots) w)) := by
  have hstored : Action.exec ((ofParts stores publisher).stores.botsWithStatus .started) (s, w) =
      (.ok bots, (s, w)) := by
    show Action.exec (storePart.act (stores.botsWithStatus .started)) (s, w) = _
    rw [Action.exec_act, storePart_get, hlist, storePart_set]
  cases bots with
  | nil =>
    simp only [handle, resume, Action.exec_bind, hstored, List.isEmpty_nil, if_true,
      Action.exec_pure]
  | cons first rest =>
    simp only [handle, resume, Action.exec_bind, hstored, List.isEmpty_cons, Bool.false_eq_true,
      if_false, exec_publish, reduceCtorEq, starts]
    cases published publisher ((first :: rest).map fun bot => .lifecycle (.start bot.id bot.token))
      w with
    | error e => rfl
    | ok _ => rfl

end Engine

theorem Address.user_lt_of_compare {a b : Address} (h : compare a b = .lt)
    (hbot : a.bot = b.bot) : a.user < b.user := by
  have h : compareLex (compareOn Address.bot) (compareOn Address.user) a b = .lt := h
  simp only [compareLex, compareOn, hbot, Std.ReflOrd.compare_self, Ordering.then] at h
  exact Std.compare_eq_lt.1 h

namespace Memory

open ScriptedChat.Action

variable {m : Memory} {id : Uuid}

/-- A participant as the next update finds it: a fresh one, if it is not stored. -/
def participantAt (m : Memory) (address : Address) : Participant :=
  (m.participants.get? address).getD (.fresh address)

theorem participantAt_address (m : Memory) (address : Address) :
    (m.participantAt address).address = address := by
  unfold participantAt
  cases h : m.participants.get? address with
  | none => rfl
  | some p => exact Table.key_of_get? h

def saveBot (m : Memory) (bot : Bot) : Memory := { m with bots := m.bots.insert bot }

def saveParticipant (m : Memory) (p : Participant) : Memory :=
  { m with participants := m.participants.insert p }

/-- The stores without a bot and its participants. -/
def dropBot (m : Memory) (id : Uuid) : Memory where
  bots := m.bots.erase id
  participants := m.participants.filter fun p => p.address.bot ≠ id

/-- The participants of the other bots are found as before once those of a bot are dropped. -/
theorem get?_dropped (m : Memory) {address : Address} (h : address.bot ≠ id) :
    (m.participants.filter fun p => p.address.bot ≠ id).get? address =
      m.participants.get? address := by
  rw [Table.get?_filter]
  cases hp : m.participants.get? address with
  | none => rfl
  | some p =>
    have hkey : p.address = address := Table.key_of_get? hp
    simp [hkey, h]

/-- The participants of a bot are listed by ascending user. -/
theorem listed_ascending (m : Memory) (id : Uuid) :
    (m.participants.rows.filter fun p => p.address.bot = id).Pairwise fun p q =>
      p.address.user < q.address.user := by
  refine (m.participants.ascending.filter _).imp_of_mem ?_
  intro p q hp hq hlt
  simp only [List.mem_filter, decide_eq_true_eq] at hp hq
  exact Address.user_lt_of_compare hlt (hp.2.trans hq.2.symm)

theorem exec_getBot_some {bot : Bot} (h : m.bots.get? id = some bot) :
    exec (getBot id) m = (.ok bot, m) := by
  simp [getBot, exec_bind, h]

theorem exec_getBot_none (h : m.bots.get? id = none) :
    exec (getBot id) m = (.error (.botNotFound id), m) := by
  simp [getBot, exec_bind, h]

theorem exec_createBot (bot : Bot) :
    exec (createBot bot) m =
      if m.bots.contains bot.id then (.error (.botAlreadyExists bot.id), m)
      else (.ok (), m.saveBot bot) := by
  cases h : m.bots.contains bot.id <;> simp [createBot, exec_bind, h, saveBot]

theorem exec_updateBot {bot : Bot} (h : m.bots.get? id = some bot)
    (change : Bot → Except Error Bot) :
    exec (updateBot id change) m =
      match change bot with
      | .ok changed => (.ok changed, m.saveBot changed)
      | .error e => (.error e, m) := by
  cases hc : change bot with
  | error e => simp [updateBot, exec_bind, exec_getBot_some h, hc]
  | ok changed => simp [updateBot, exec_bind, exec_map, exec_getBot_some h, hc, saveBot, Except.map]

theorem exec_deleteParticipants :
    exec (deleteParticipants id) m =
      (.ok (), ⟨m.bots, m.participants.filter fun p => p.address.bot ≠ id⟩) := rfl

theorem exec_deleteBot {bot : Bot} (h : m.bots.get? id = some bot)
    (participants : Table Participant.address) :
    exec (deleteBot id) ⟨m.bots, participants⟩ = (.ok (), ⟨m.bots.erase id, participants⟩) := by
  have h' : (Memory.mk m.bots participants).bots.get? id = some bot := h
  simp [deleteBot, exec_bind, exec_getBot_some h']

theorem exec_deleteBot_none (h : m.bots.get? id = none)
    (participants : Table Participant.address) :
    exec (deleteBot id) ⟨m.bots, participants⟩ =
      (.error (.botNotFound id), ⟨m.bots, participants⟩) := by
  have h' : (Memory.mk m.bots participants).bots.get? id = none := h
  simp [deleteBot, exec_bind, exec_getBot_none h']

theorem exec_setStatus {bot : Bot} (h : m.bots.get? id = some bot) (status : BotStatus)
    (now : Time) :
    exec (setStatus id status now) m = (.ok (), m.saveBot (bot.setStatus status now)) := by
  simp [setStatus, exec_bind, exec_getBot_some h, saveBot]

theorem exec_botsOfOwner (m : Memory) (layout : Layout) (owner : UserId) :
    exec (botsOfOwner layout owner) m = (.ok (m.ownedBy layout owner), m) := rfl

theorem exec_botsWithStatus (m : Memory) (layout : Layout) (status : BotStatus) :
    exec ((stores layout).botsWithStatus status) m =
      (.ok (layout.arrange (m.bots.rows.filter fun bot => bot.status = status)), m) := rfl

theorem exec_updateParticipant {α : Type} (address : Address)
    (change : Participant → Except Error (α × Participant)) :
    exec (updateParticipant address change) m =
      match change (m.participantAt address) with
      | .ok (outcome, p) => (.ok outcome, m.saveParticipant p)
      | .error e => (.error e, m) := by
  cases hc : change (m.participantAt address) with
  | error e =>
    unfold participantAt at hc
    simp [updateParticipant, exec_bind, hc]
  | ok r =>
    unfold participantAt at hc
    simp [updateParticipant, exec_bind, exec_map, hc, saveParticipant, Except.map]

end Memory

end ScriptedChat
