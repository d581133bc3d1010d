import ScriptedChat.Proofs.Agreement
import ScriptedChat.Proofs.Engine.World

/-!
Stores in memory that hold the same but for the credentials of the bots. Every operation that the
stores offer has the same outcome over both, up to the credentials of the bots that it returns, and
leaves stores that hold the same again. A list of bots takes maps that are laid out alike for that.
-/
namespace ScriptedChat

open ScriptedChat.Action

namespace Bot

/-- All of a bot but its credential. -/
def masked (bot : Bot) : Bot := { bot with token := "" }

theorem masked_eq_iff {bot other : Bot} :
    bot.masked = other.masked ↔ other = { bot with token := other.token } := by
  constructor
  · intro h
    obtain ⟨id, owner, name, token, status, script, mailings, created, updated⟩ := bot
    obtain ⟨id', owner', name', token', status', script', mailings', created', updated'⟩ := other
    cases h
    rfl
  · intro h
    rw [h]
    rfl

/-- Changes that neither look at the credential nor change it. -/
def SparesToken (change : Bot → Except Error Bot) : Prop :=
  ∀ bot token, change { bot with token := token } =
    (change bot).map fun changed => { changed with token := token }

theorem ensureOwner_sparesToken (owner : UserId) {change : Bot → Except Error Bot}
    (h : SparesToken change) :
    SparesToken (fun bot => do
      bot.ensureOwner owner
      change bot) := by
  intro bot token
  show (bot.ensureOwner owner >>= fun _ => change { bot with token := token }) =
    (bot.ensureOwner owner >>= fun _ => change bot).map _
  cases bot.ensureOwner owner with
  | error e => rfl
  | ok _ => exact h bot token

theorem setScript_sparesToken (entries : List EntryPoint) (blocks : List Block)
    (cycles : CyclePolicy) (now : Time) :
    SparesToken fun bot => bot.setScript entries blocks cycles now := by
  intro bot token
  unfold setScript
  cases Script.build entries blocks cycles with
  | error e => rfl
  | ok script =>
    simp only [Outcome.ok_bind]
    cases bot.mailings.forM (checkTargets script) with
    | error e => rfl
    | ok _ => rfl

theorem addMailing_sparesToken (mailing : Mailing) (now : Time) :
    SparesToken fun bot => bot.addMailing mailing now := by
  intro bot token
  have hsame : ({ bot with token := token } : Bot).mailing? mailing.name =
      bot.mailing? mailing.name := rfl
  simp only [addMailing, Outcome.throw_eq, Outcome.error_bind, hsame]
  by_cases hname : Text.isBlank mailing.name
  · simp [hname, Except.map]
  · cases hold : bot.mailing? mailing.name with
    | some old => simp [hname, Except.map]
    | none =>
      rw [if_neg hname, if_neg hname, if_neg (by simp), if_neg (by simp)]
      cases checkTargets bot.script mailing with
      | error e => rfl
      | ok _ => rfl

/-- Of the credential of a draft only counts whether it is blank. -/
theorem create_token (draft : BotDraft) {token : String}
    (hblank : Text.isBlank draft.token = Text.isBlank token) (cycles : CyclePolicy) (now : Time) :
    create { draft with token := token } cycles now =
      (create draft cycles now).map fun bot => { bot with token := token } := by
  simp only [create, Outcome.throw_eq, Outcome.error_bind, ← hblank]
  by_cases hname : Text.isBlank draft.name
  · simp [hname, Except.map]
  · by_cases htoken : Text.isBlank draft.token
    · simp [hname, htoken, Except.map]
    · simp only [hname, htoken, if_neg, Bool.false_eq_true, not_false_eq_true]
      cases Script.build draft.entries draft.blocks cycles with
      | error e => rfl
      | ok script => rfl

end Bot

theorem Table.map_insertRow {ρ κ : Type} [Ord κ] {key : ρ → κ} {f : ρ → ρ}
    (hkey : ∀ r, key (f r) = key r) (r : ρ) (l : List ρ) :
    (insertRow key r l).map f = insertRow key (f r) (l.map f) := by
  induction l with
  | nil => rfl
  | cons a rest ih =>
    rw [List.map_cons, insertRow, insertRow, hkey, hkey]
    cases compare (key r) (key a) with
    | lt => rfl
    | eq => rfl
    | gt => rw [List.map_cons, ih]

namespace Memory

variable {m m' : Memory} {id : Uuid}

/-- Stores that hold the same but for the credentials of the bots. -/
structure SameButTokens (m m' : Memory) : Prop where
  bots : m.bots.rows.map Bot.masked = m'.bots.rows.map Bot.masked
  participants : m.participants = m'.participants

namespace SameButTokens

theorem refl (m : Memory) : SameButTokens m m := ⟨rfl, rfl⟩

theorem get?_masked (t : Table Bot.id) (id : Uuid) :
    (t.get? id).map Bot.masked = (t.rows.map Bot.masked).find? fun bot =>
      compare bot.id id == .eq := by
  rw [List.find?_map]
  rfl

/-- A bot is found in both or in none, and but for its credential it is the same bot. -/
theorem found (h : SameButTokens m m') (id : Uuid) :
    (m.bots.get? id = none ∧ m'.bots.get? id = none) ∨
      ∃ bot token, bot.id = id ∧ m.bots.get? id = some bot ∧
        m'.bots.get? id = some { bot with token := token } := by
  have hsame : (m.bots.get? id).map Bot.masked = (m'.bots.get? id).map Bot.masked := by
    rw [get?_masked, get?_masked, h.bots]
  cases hbot : m.bots.get? id with
  | none =>
    rw [hbot] at hsame
    exact Or.inl ⟨rfl, Option.map_eq_none_iff.1 hsame.symm⟩
  | some bot =>
    rw [hbot] at hsame
    obtain ⟨other, hother, hmasked⟩ := Option.map_eq_some_iff.1 hsame.symm
    rw [Bot.masked_eq_iff.1 hmasked.symm] at hother
    exact Or.inr ⟨bot, other.token, Table.key_of_get? hbot, rfl, hother⟩

theorem saveBot (h : SameButTokens m m') (bot : Bot) (token : String) :
    SameButTokens (m.saveBot bot) (m'.saveBot { bot with token := token }) where
  bots := by
    show (Table.insertRow Bot.id bot m.bots.rows).map Bot.masked =
      (Table.insertRow Bot.id { bot with token := token } m'.bots.rows).map Bot.masked
    rw [Table.map_insertRow (f := Bot.masked) fun _ => rfl,
      Table.map_insertRow (f := Bot.masked) fun _ => rfl, h.bots]
    rfl
  participants := h.participants

theorem saveParticipant (h : SameButTokens m m') (p : Participant) :
    SameButTokens (m.saveParticipant p) (m'.saveParticipant p) where
  bots := h.bots
  participants := congrArg (fun t => t.insert p) h.participants

theorem dropParticipants (h : SameButTokens m m') (id : Uuid) :
    SameButTokens ⟨m.bots, m.participants.filter fun p => p.address.bot ≠ id⟩
      ⟨m'.bots, m'.participants.filter fun p => p.address.bot ≠ id⟩ where
  bots := h.bots
  participants := congrArg (fun t => t.filter fun p => p.address.bot ≠ id) h.participants

theorem eraseBot (h : SameButTokens m m') (id : Uuid) :
    SameButTokens ⟨m.bots.erase id, m.participants⟩ ⟨m'.bots.erase id, m'.participants⟩ where
  bots := by
    have hfilter : ∀ t : Table Bot.id, (t.erase id).rows.map Bot.masked =
        (t.rows.map Bot.masked).filter fun bot => compare bot.id id != .eq := by
      intro t
      rw [List.filter_map]
      rfl
    rw [hfilter, hfilter, h.bots]
  participants := h.participants

theorem participantAt (h : SameButTokens m m') (address : Address) :
    m.participantAt address = m'.participantAt address := by
  rw [Memory.participantAt, Memory.participantAt, h.participants]

/-- The bots of an operator are listed in the same order by maps that are laid out alike, as
credentials do not count. -/
theorem ownedBy (h : SameButTokens m m') (layout : Layout) (owner : UserId) :
    (m.ownedBy layout owner).map Bot.masked = (m'.ownedBy layout owner).map Bot.masked := by
  have hlist (t : Table Bot.id) :
      (Bot.byAge (layout.arrange (t.rows.filter fun bot => bot.owner = owner))).map Bot.masked =
        Bot.byAge (layout.arrange
          ((t.rows.map Bot.masked).filter fun bot => bot.owner = owner)) := by
    rw [Bot.byAge_map (f := Bot.masked) fun _ => rfl,
      layout.arrange_map (f := Bot.masked) fun _ => rfl, List.filter_map]
    rfl
  rw [Memory.ownedBy, Memory.ownedBy, hlist, hlist, h.bots]

end SameButTokens

section Operations

theorem createBot_masked (bot : Bot) (token : String) :
    Agrees SameButTokens (createBot bot) (createBot { bot with token := token }) := by
  intro m m' h
  rw [exec_createBot, exec_createBot, Table.contains, Table.contains]
  rcases h.found bot.id with ⟨hnone, hnone'⟩ | ⟨old, _, _, hold, hold'⟩
  · rw [hnone, hnone']
    exact ⟨rfl, h.saveBot bot token⟩
  · rw [hold, hold']
    exact ⟨rfl, h⟩

theorem updateBot_masked {change : Bot → Except Error Bot} (hchange : Bot.SparesToken change) :
    Agrees SameButTokens (Bot.masked <$> updateBot id change)
      (Bot.masked <$> updateBot id change) := by
  intro m m' h
  rw [exec_map, exec_map]
  rcases h.found id with ⟨hnone, hnone'⟩ | ⟨bot, token, _, hbot, hbot'⟩
  · simp only [updateBot, exec_bind, exec_getBot_none hnone, exec_getBot_none hnone']
    exact ⟨trivial, h⟩
  · rw [exec_updateBot hbot, exec_updateBot hbot', hchange bot token]
    cases change bot with
    | error e => exact ⟨rfl, h⟩
    | ok changed => exact ⟨rfl, h.saveBot changed token⟩

theorem setStatus_masked (status : BotStatus) (now : Time) :
    Agrees SameButTokens (setStatus id status now) (setStatus id status now) := by
  intro m m' h
  rcases h.found id with ⟨hnone, hnone'⟩ | ⟨bot, token, _, hbot, hbot'⟩
  · simp only [setStatus, exec_bind, exec_getBot_none hnone, exec_getBot_none hnone']
    exact ⟨trivial, h⟩
  · rw [exec_setStatus hbot, exec_setStatus hbot']
    exact ⟨rfl, h.saveBot (bot.setStatus status now) token⟩

theorem deleteBot_masked : Agrees SameButTokens (deleteBot id) (deleteBot id) := by
  intro m m' h
  rcases h.found id with ⟨hnone, hnone'⟩ | ⟨bot, token, _, hbot, hbot'⟩
  · rw [exec_deleteBot_none hnone m.participants, exec_deleteBot_none hnone' m'.participants]
    exact ⟨rfl, h⟩
  · rw [exec_deleteBot hbot m.participants, exec_deleteBot hbot' m'.participants]
    exact ⟨rfl, h.eraseBot id⟩

theorem deleteParticipants_masked :
    Agrees SameButTokens (deleteParticipants id) (deleteParticipants id) :=
  fun _ _ h => ⟨rfl, h.dropParticipants id⟩

theorem updateParticipant_masked {α : Type} (address : Address)
    (change : Participant → Except Error (α × Participant)) :
    Agrees SameButTokens (updateParticipant address change)
      (updateParticipant address change) := by
  intro m m' h
  rw [exec_updateParticipant, exec_updateParticipant, h.participantAt address]
  cases change (m'.participantAt address) with
  | error e => exact ⟨rfl, h⟩
  | ok outcome =>
    obtain ⟨a, p⟩ := outcome
    exact ⟨rfl, h.saveParticipant p⟩

theorem getParticipant_masked (address : Address) :
    Agrees SameButTokens (getParticipant address) (getParticipant address) := by
  intro m m' h
  simp only [getParticipant, exec_bind, exec_get, h.participants]
  cases m'.participants.get? address with
  | none => exact ⟨rfl, h⟩
  | some p => exact ⟨rfl, h⟩

theorem participantsOfBot_masked :
    Agrees SameButTokens (participantsOfBot id) (participantsOfBot id) := by
  intro m m' h
  simp only [participantsOfBot, exec_bind, exec_get, exec_pure, h.participants]
  exact ⟨trivial, h⟩

end Operations

end Memory

end ScriptedChat
