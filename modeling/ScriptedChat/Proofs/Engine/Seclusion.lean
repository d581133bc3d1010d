import ScriptedChat.Proofs.Engine.Alike
import ScriptedChat.Proofs.Engine.Ownership
import ScriptedChat.Proofs.Engine.Sound
import ScriptedChat.Proofs.Exchanges

/-!
What others see of a bot. Two stores may hold different contents of a bot under one identifier and
for one owner, and agree outside of it. Requests of other operators, and of users of other bots, are
answered alike over both: those on the bot are refused, and the others neither read nor change what
belongs to the bot. So they go on agreeing outside of the bot, and each keeps its own contents.
-/
namespace ScriptedChat

open ScriptedChat.Action

/-- Commands of others than the owner of a bot, and those of the users of other bots. -/
def Command.Foreign (id : Uuid) (owner : UserId) : Command → Prop
  | .enter address _ | .process address _ => address.bot ≠ id
  | .resume => False
  | c => ∀ operator, c.target? = some (id, operator) → operator ≠ owner

/-- Queries of others than the owner of a bot. -/
def Query.Foreign (id : Uuid) (owner : UserId) : Query → Prop
  | .bots operator => operator ≠ owner
  | q => ∀ operator, q.target? = some (id, operator) → operator ≠ owner

theorem Command.Foreign.operator_ne {id : Uuid} {owner operator : UserId} {c : Command}
    (h : c.Foreign id owner) (hc : c.target? = some (id, operator)) : operator ≠ owner := by
  cases c with
  | createBot | enter | process | resume => cases hc
  | setScript | addMailing | sendMailing | startBot | stopBot | deleteBot => exact h operator hc

theorem Query.Foreign.operator_ne {id : Uuid} {owner operator : UserId} {q : Query}
    (h : q.Foreign id owner) (hq : q.target? = some (id, operator)) : operator ≠ owner := by
  cases q with
  | bots => cases hq
  | bot | answers | participant => exact h operator hq

def Engine.Request.Foreign (id : Uuid) (owner : UserId) : Engine.Request → Prop
  | .command occasion => occasion.command.Foreign id owner
  | .query _ q => q.Foreign id owner

theorem Engine.Request.Foreign.not_resume {id : Uuid} {owner : UserId} {r : Engine.Request}
    (h : r.Foreign id owner) : ¬ r.IsResume := by
  intro hresume
  obtain ⟨layout, setting, rfl⟩ := hresume
  exact h

namespace Memory

variable {id other : Uuid} {m m' m₀ : Memory}

/-- Stores that hold the same, except of one bot. -/
structure AgreeOutside (id : Uuid) (m m' : Memory) : Prop where
  bots : ∀ other ≠ id, m.bots.get? other = m'.bots.get? other
  participants : ∀ address, address.bot ≠ id →
    m.participants.get? address = m'.participants.get? address

/-- Stores that hold the same of one bot. -/
structure AgreeOn (id : Uuid) (m m' : Memory) : Prop where
  bot : m.bots.get? id = m'.bots.get? id
  participants : ∀ user, m.participants.get? ⟨id, user⟩ = m'.participants.get? ⟨id, user⟩

namespace AgreeOutside

theorem of_dropBot (h : m.dropBot id = m'.dropBot id) : AgreeOutside id m m' where
  bots other hother := by
    have hsame : (m.dropBot id).bots.get? other = (m'.dropBot id).bots.get? other := by rw [h]
    rw [get?_dropBot, get?_dropBot, if_neg (Ne.symm hother), if_neg (Ne.symm hother)] at hsame
    exact hsame
  participants address haddress := by
    have hsame : (m.dropBot id).participants.get? address =
        (m'.dropBot id).participants.get? address := by rw [h]
    exact (m.get?_dropped haddress).symm.trans (hsame.trans (m'.get?_dropped haddress))

theorem saveBot (h : AgreeOutside id m m') (bot : Bot) :
    AgreeOutside id (m.saveBot bot) (m'.saveBot bot) where
  bots other hother := by rw [get?_saveBot, get?_saveBot, h.bots other hother]
  participants := h.participants

theorem saveParticipant (h : AgreeOutside id m m') (p : Participant) :
    AgreeOutside id (m.saveParticipant p) (m'.saveParticipant p) where
  bots := h.bots
  participants address haddress := by
    rw [get?_saveParticipant, get?_saveParticipant, h.participants address haddress]

theorem dropParticipants (h : AgreeOutside id m m') (other : Uuid) :
    AgreeOutside id ⟨m.bots, m.participants.filter fun p => p.address.bot ≠ other⟩
      ⟨m'.bots, m'.participants.filter fun p => p.address.bot ≠ other⟩ where
  bots := h.bots
  participants address haddress := by
    show (m.participants.filter _).get? address = (m'.participants.filter _).get? address
    rw [Table.get?_filter, Table.get?_filter, h.participants address haddress]

theorem dropBot (h : AgreeOutside id m m') (other : Uuid) :
    AgreeOutside id (m.dropBot other) (m'.dropBot other) where
  bots name hname := by rw [get?_dropBot, get?_dropBot, h.bots name hname]
  participants := (h.dropParticipants other).participants

/-- A list of bots that leaves out the one is the same. -/
theorem rows_filter (h : AgreeOutside id m m') {p : Bot → Bool}
    (hp : ∀ bot, m.bots.get? id = some bot ∨ m'.bots.get? id = some bot → p bot = false) :
    m.bots.rows.filter p = m'.bots.rows.filter p := by
  have hout : ∀ {n : Memory}, (∀ bot, n.bots.get? id = some bot → p bot = false) →
      (n.bots.filter p).get? id = none := by
    intro n hn
    rw [Table.get?_filter, Option.filter_eq_none_iff]
    intro bot hbot
    rw [hn bot hbot]
    exact Bool.false_ne_true
  have hsame : m.bots.filter p = m'.bots.filter p := by
    refine Table.ext_get? fun other => ?_
    by_cases hother : other = id
    · subst hother
      rw [hout fun bot hbot => hp bot (Or.inl hbot), hout fun bot hbot => hp bot (Or.inr hbot)]
    · rw [Table.get?_filter, Table.get?_filter, h.bots other hother]
  exact congrArg Table.rows hsame

theorem participantsOfBot (h : AgreeOutside id m m') (hother : other ≠ id) :
    (m.participants.rows.filter fun p => p.address.bot = other) =
      m'.participants.rows.filter fun p => p.address.bot = other := by
  have hsame : (m.participants.filter fun p => p.address.bot = other) =
      m'.participants.filter fun p => p.address.bot = other := by
    refine Table.ext_get? fun address => ?_
    rw [Table.get?_filter, Table.get?_filter]
    by_cases haddress : address.bot = id
    · have hnone : ∀ t : Table Participant.address,
          (t.get? address).filter (fun p => p.address.bot = other) = none := by
        intro t
        rw [Option.filter_eq_none_iff]
        intro p hp hbot
        have hkey : p.address = address := Table.key_of_get? hp
        have hbot : p.address.bot = other := of_decide_eq_true hbot
        exact hother (by rw [← hbot, hkey, haddress])
      rw [hnone, hnone]
    · rw [h.participants address haddress]
  exact congrArg Table.rows hsame

theorem participantAt (h : AgreeOutside id m m') {address : Address} (haddress : address.bot ≠ id) :
    m.participantAt address = m'.participantAt address := by
  rw [Memory.participantAt, Memory.participantAt, h.participants address haddress]

end AgreeOutside

namespace AgreeOn

theorem refl (id : Uuid) (m : Memory) : AgreeOn id m m := ⟨rfl, fun _ => rfl⟩

theorem trans (h : AgreeOn id m m') (h' : AgreeOn id m' m₀) : AgreeOn id m m₀ where
  bot := h.bot.trans h'.bot
  participants user := (h.participants user).trans (h'.participants user)

theorem saveBot {bot : Bot} (hbot : bot.id ≠ id) : AgreeOn id (m.saveBot bot) m where
  bot := by rw [get?_saveBot, if_neg hbot]
  participants _ := rfl

theorem saveParticipant {p : Participant} (hp : p.address.bot ≠ id) :
    AgreeOn id (m.saveParticipant p) m where
  bot := rfl
  participants user := by
    have haddress : p.address ≠ ⟨id, user⟩ := fun heq => hp (by rw [heq])
    rw [get?_saveParticipant, if_neg haddress]

theorem dropParticipants (hother : other ≠ id) :
    AgreeOn id ⟨m.bots, m.participants.filter fun p => p.address.bot ≠ other⟩ m where
  bot := rfl
  participants _ := m.get?_dropped (Ne.symm hother)

theorem dropBot (hother : other ≠ id) : AgreeOn id (m.dropBot other) m where
  bot := by rw [get?_dropBot, if_neg hother]
  participants := (dropParticipants hother).participants

end AgreeOn

/-- Stores that agree outside of a bot, with contents of the bot that are given. -/
structure Veiled (id : Uuid) (left right m m' : Memory) : Prop where
  outside : AgreeOutside id m m'
  left : AgreeOn id m left
  right : AgreeOn id m' right

namespace Veiled

variable {left right : Memory}

theorem saveBot (h : Veiled id left right m m') {bot : Bot} (hbot : bot.id ≠ id) :
    Veiled id left right (m.saveBot bot) (m'.saveBot bot) where
  outside := h.outside.saveBot bot
  left := (AgreeOn.saveBot hbot).trans h.left
  right := (AgreeOn.saveBot hbot).trans h.right

theorem saveParticipant (h : Veiled id left right m m') {p : Participant}
    (hp : p.address.bot ≠ id) :
    Veiled id left right (m.saveParticipant p) (m'.saveParticipant p) where
  outside := h.outside.saveParticipant p
  left := (AgreeOn.saveParticipant hp).trans h.left
  right := (AgreeOn.saveParticipant hp).trans h.right

theorem dropParticipants (h : Veiled id left right m m') (hother : other ≠ id) :
    Veiled id left right ⟨m.bots, m.participants.filter fun p => p.address.bot ≠ other⟩
      ⟨m'.bots, m'.participants.filter fun p => p.address.bot ≠ other⟩ where
  outside := h.outside.dropParticipants other
  left := (AgreeOn.dropParticipants hother).trans h.left
  right := (AgreeOn.dropParticipants hother).trans h.right

theorem dropBot (h : Veiled id left right m m') (hother : other ≠ id) :
    Veiled id left right (m.dropBot other) (m'.dropBot other) where
  outside := h.outside.dropBot other
  left := (AgreeOn.dropBot hother).trans h.left
  right := (AgreeOn.dropBot hother).trans h.right

end Veiled

end Memory

/-- Changes after which a participant is still that of the same user. -/
def KeepsAddress {α : Type} (change : Participant → Except Error (α × Participant)) : Prop :=
  ∀ p outcome q, change p = .ok (outcome, q) → q.address = p.address

theorem enter_keepsAddress (key : String) (script : Script) :
    KeepsAddress fun p => p.enter script key :=
  fun _ _ _ h => Participant.enter_address h

theorem reply_keepsAddress (input : String) (script : Script) :
    KeepsAddress fun p => p.reply script input :=
  fun _ _ _ h => Participant.reply_address h

theorem visit_keepsAddress (script : Script) (mailing : Mailing) :
    KeepsAddress (mailing.visit script) :=
  fun _ _ _ h => Mailing.visit_address h

namespace Engine

variable {π : Type} {publisher : Publisher π} {layout : Memory.Layout} {setting : Setting}
  {id other : Uuid} {left right : Memory}

/-- The other bots are served alike. -/
theorem others_alike (layout : Memory.Layout) (left right : Memory) (hother : other ≠ id) :
    (Memory.stores layout).Alike (Memory.stores layout) (Memory.Veiled id left right)
      (Memory.Veiled id left right) (fun _ => KeepsAddress) other where
  weaken _ _ h := h
  getBot m m' h := by
    have hsame := h.outside.bots other hother
    cases hbot : m.bots.get? other with
    | none =>
      rw [hbot] at hsame
      exact Or.inl ⟨_, Memory.exec_getBot_none hbot, Memory.exec_getBot_none hsame.symm⟩
    | some bot =>
      rw [hbot] at hsame
      exact Or.inr ⟨bot, Table.key_of_get? hbot, Memory.exec_getBot_some hbot,
        Memory.exec_getBot_some hsame.symm, h⟩
  delete m m' h := by
    have hsame := h.outside.bots other hother
    simp only [Memory.stores, exec_bind, Memory.exec_deleteParticipants]
    cases hbot : m.bots.get? other with
    | none =>
      rw [hbot] at hsame
      rw [Memory.exec_deleteBot_none hbot, Memory.exec_deleteBot_none hsame.symm]
      exact ⟨rfl, h.dropParticipants hother⟩
    | some bot =>
      rw [hbot] at hsame
      rw [Memory.exec_deleteBot hbot, Memory.exec_deleteBot hsame.symm]
      exact ⟨rfl, h.dropBot hother⟩
  participantsOfBot m m' h :=
    ⟨congrArg Except.ok (h.outside.participantsOfBot hother), h⟩
  updateParticipant user change hchange m m' h := by
    have haddress : (m.participantAt ⟨other, user⟩).address = ⟨other, user⟩ :=
      m.participantAt_address _
    have hsame : m.participantAt ⟨other, user⟩ = m'.participantAt ⟨other, user⟩ :=
      h.outside.participantAt hother
    simp only [Memory.stores, Memory.exec_updateParticipant, ← hsame]
    cases hchanged : change (m.participantAt ⟨other, user⟩) with
    | error e => exact ⟨rfl, h⟩
    | ok outcome =>
      obtain ⟨a, q⟩ := outcome
      have hq : q.address.bot ≠ id := by
        rw [hchange _ a q hchanged, haddress]
        exact hother
      exact ⟨rfl, h.saveParticipant hq⟩

theorem setStatus_others (hother : other ≠ id) (status : BotStatus) (now : Time) :
    Agrees (Memory.Veiled id left right) (Memory.setStatus other status now)
      (Memory.setStatus other status now) := by
  intro m m' h
  have hsame := h.outside.bots other hother
  cases hbot : m.bots.get? other with
  | none =>
    rw [hbot] at hsame
    simp only [Memory.setStatus, exec_bind, Memory.exec_getBot_none hbot,
      Memory.exec_getBot_none hsame.symm]
    exact ⟨trivial, h⟩
  | some bot =>
    rw [hbot] at hsame
    have hid : bot.id = other := Table.key_of_get? hbot
    rw [Memory.exec_setStatus hbot, Memory.exec_setStatus hsame.symm]
    exact ⟨rfl, h.saveBot (by rw [← hid] at hother; exact hother)⟩

theorem updateBot_others (hother : other ≠ id) {change : Bot → Except Error Bot}
    (hchange : ∀ bot changed, change bot = .ok changed → changed.id = bot.id) :
    Agrees (Memory.Veiled id left right) (Memory.updateBot other change)
      (Memory.updateBot other change) := by
  intro m m' h
  have hsame := h.outside.bots other hother
  cases hbot : m.bots.get? other with
  | none =>
    rw [hbot] at hsame
    simp only [Memory.updateBot, exec_bind, Memory.exec_getBot_none hbot,
      Memory.exec_getBot_none hsame.symm]
    exact ⟨trivial, h⟩
  | some bot =>
    rw [hbot] at hsame
    have hid : bot.id = other := Table.key_of_get? hbot
    rw [Memory.exec_updateBot hbot, Memory.exec_updateBot hsame.symm]
    cases hchanged : change bot with
    | error e => exact ⟨rfl, h⟩
    | ok changed =>
      refine ⟨rfl, h.saveBot ?_⟩
      rw [hchange bot changed hchanged, hid]
      exact hother

theorem updateOwned_others (publisher : Publisher π) (hother : other ≠ id) (operator : UserId)
    {change : Bot → Except Error Bot}
    (hchange : ∀ bot changed, change bot = .ok changed → changed.id = bot.id) :
    Agrees (Paired (Memory.Veiled id left right))
      ((inMemory publisher layout).stores.updateBot other fun bot => do
        bot.ensureOwner operator
        change bot)
      ((inMemory publisher layout).stores.updateBot other fun bot => do
        bot.ensureOwner operator
        change bot) := by
  apply Paired.stored
  apply updateBot_others hother
  intro bot changed hchanged
  obtain ⟨_, _, hchanged⟩ := Outcome.bind_ok_iff.1 hchanged
  exact hchange bot changed hchanged

theorem getParticipant_others {address : Address} (hother : address.bot ≠ id) :
    Agrees (Memory.Veiled id left right) (Memory.getParticipant address)
      (Memory.getParticipant address) := by
  intro m m' h
  simp only [Memory.getParticipant, exec_bind, exec_get, h.outside.participants address hother]
  cases m'.participants.get? address with
  | none => exact ⟨rfl, h⟩
  | some p => exact ⟨rfl, h⟩

section
variable {x y : Bot} (hx : left.bots.get? id = some x) (hy : right.bots.get? id = some y)
include hx hy

/-- A new bot is made in both or in none; under the identifier of the one it is made in none. -/
theorem createBot_alike (bot : Bot) :
    Agrees (Memory.Veiled id left right) (Memory.createBot bot) (Memory.createBot bot) := by
  intro m m' h
  rw [Memory.exec_createBot, Memory.exec_createBot, Table.contains, Table.contains]
  by_cases hid : bot.id = id
  · rw [hid, h.left.bot, h.right.bot, hx, hy]
    exact ⟨rfl, h⟩
  · rw [h.outside.bots bot.id hid]
    cases m'.bots.get? bot.id with
    | some old => exact ⟨rfl, h⟩
    | none => exact ⟨rfl, h.saveBot hid⟩

variable (howner : y.owner = x.owner) {operator : UserId} (hoperator : operator ≠ x.owner)
include howner hoperator

/-- What is refused to everyone but the owner is refused by both. -/
theorem denied_alike {α : Type} {action : Action (Memory × π) α}
    (hdenied : ∀ m w bot, (Memory.stores layout).Holds m id bot → operator ≠ bot.owner →
      exec action (m, w) = (.error (.permissionDenied id), (m, w))) :
    Agrees (Paired (Memory.Veiled id left right)) action action := by
  intro s t h
  obtain ⟨m, w⟩ := s
  obtain ⟨m', w'⟩ := t
  obtain ⟨h, rfl⟩ := h
  have hm := Memory.holds layout (h.left.bot.trans hx)
  have hm' := Memory.holds layout (h.right.bot.trans hy)
  rw [hdenied m w x hm hoperator, hdenied m' w y hm' (by rw [howner]; exact hoperator)]
  exact ⟨rfl, h, rfl⟩

/-- The other operators are listed the same bots, in the same order however the map is laid out. -/
theorem botsOfOwner_alike (layout : Memory.Layout) :
    Agrees (Memory.Veiled id left right) (Memory.botsOfOwner layout operator)
      (Memory.botsOfOwner layout operator) := by
  intro m m' h
  have hrows : (m.bots.rows.filter fun bot => bot.owner = operator) =
      m'.bots.rows.filter fun bot => bot.owner = operator := by
    apply h.outside.rows_filter
    intro bot hbot
    apply decide_eq_false
    rcases hbot with hbot | hbot
    · rw [h.left.bot, hx] at hbot
      cases hbot
      exact Ne.symm hoperator
    · rw [h.right.bot, hy] at hbot
      cases hbot
      rw [howner]
      exact Ne.symm hoperator
  refine ⟨?_, h⟩
  simp only [Memory.botsOfOwner, exec_bind, exec_get, exec_pure, hrows]

end

section
variable {x y : Bot} (hx : left.bots.get? id = some x) (hy : right.bots.get? id = some y)
  (howner : y.owner = x.owner)
include hx hy howner

/-- Commands of others are carried out alike. -/
theorem handle_foreign {c : Command} (hc : c.Foreign id x.owner) :
    Agrees (Paired (Memory.Veiled id left right)) ((inMemory publisher layout).handle setting c)
      ((inMemory publisher layout).handle setting c) := by
  by_cases hdenied : ∃ operator, c.target? = some (id, operator)
  · obtain ⟨operator, htarget⟩ := hdenied
    exact denied_alike hx hy howner (hc.operator_ne htarget)
      fun m w bot hholds hoperator => hholds.handle_denied hoperator htarget
  · have hother : ∀ bot operator, c.target? = some (bot, operator) → bot ≠ id := by
      intro bot operator htarget heq
      subst heq
      exact hdenied ⟨operator, htarget⟩
    cases c with
    | createBot draft =>
      apply Agrees.bind
      · apply Agrees.bind (Agrees.lift _)
        intro bot
        apply Agrees.bind (Paired.stored (createBot_alike hx hy bot))
        intro _
        exact Agrees.pure bot
      · intro bot
        exact Agrees.pure _
    | setScript bot operator entries blocks =>
      have hid : ∀ bot changed : Bot,
          bot.setScript entries blocks setting.cycles setting.now = .ok changed →
            changed.id = bot.id := fun _ _ h => Bot.setScript_id h
      exact (updateOwned_others publisher (hother bot operator rfl) operator hid).bind
        fun bot => Agrees.pure _
    | addMailing bot operator mailing =>
      have hid : ∀ bot changed : Bot, bot.addMailing mailing setting.now = .ok changed →
          changed.id = bot.id := fun _ _ h => Bot.addMailing_id h
      exact (updateOwned_others publisher (hother bot operator rfl) operator hid).bind
        fun bot => Agrees.pure _
    | sendMailing bot operator name =>
      have halike := others_alike layout left right (hother bot operator rfl)
      have hsend := halike.sendMailing_agrees publisher visit_keepsAddress operator name
      exact hsend.bind fun n => Agrees.pure _
    | startBot bot operator =>
      have hne := hother bot operator rfl
      have hstart := (others_alike layout left right hne).startBot_agrees publisher
        (fun status => setStatus_others hne status setting.now) operator
      exact hstart.bind fun _ => Agrees.pure _
    | stopBot bot operator =>
      have hne := hother bot operator rfl
      have hstop := (others_alike layout left right hne).stopBot_agrees publisher
        (fun status => setStatus_others hne status setting.now) operator
      exact hstop.bind fun _ => Agrees.pure _
    | deleteBot bot operator =>
      have halike := others_alike layout left right (hother bot operator rfl)
      have hdelete := halike.deleteBot_agrees publisher operator
      exact hdelete.bind fun _ => Agrees.pure _
    | enter address key =>
      have henter := (others_alike layout left right hc).enter_agrees publisher address.user
        (enter_keepsAddress key)
      exact henter.bind fun messages => Agrees.pure _
    | process address input =>
      have hprocess := (others_alike layout left right hc).process_agrees publisher address.user
        (reply_keepsAddress input)
      exact hprocess.bind fun transition => Agrees.pure _
    | resume => exact hc.elim

/-- So are their queries. -/
theorem ask_foreign {q : Query} (hq : q.Foreign id x.owner) :
    Agrees (Paired (Memory.Veiled id left right)) ((inMemory publisher layout).ask q)
      ((inMemory publisher layout).ask q) := by
  by_cases hdenied : ∃ operator, q.target? = some (id, operator)
  · obtain ⟨operator, htarget⟩ := hdenied
    exact denied_alike hx hy howner (hq.operator_ne htarget)
      fun m w bot hholds hoperator => hholds.ask_denied hoperator htarget
  · have hother : ∀ bot operator, q.target? = some (bot, operator) → bot ≠ id := by
      intro bot operator htarget heq
      subst heq
      exact hdenied ⟨operator, htarget⟩
    cases q with
    | bot bot operator =>
      have halike := others_alike layout left right (hother bot operator rfl)
      have hbot := halike.ownedBot_agrees publisher operator
      exact hbot.bind fun bot => Agrees.pure _
    | bots operator =>
      have hlist := botsOfOwner_alike hx hy howner hq layout
      exact (Paired.stored hlist).bind fun bots => Agrees.pure _
    | answers bot operator =>
      have halike := others_alike layout left right (hother bot operator rfl)
      have hanswers := halike.answers_agrees publisher operator
      exact hanswers.bind fun table => Agrees.pure _
    | participant address operator =>
      have hne := hother address.bot operator rfl
      apply Agrees.bind
      · apply Agrees.bind ((others_alike layout left right hne).ownedBot_agrees publisher operator)
        intro bot
        exact Paired.stored (getParticipant_others hne)
      · intro p
        exact Agrees.pure _

theorem respond_foreign {r : Request} (hr : r.Foreign id x.owner) :
    Agrees (Paired (Memory.Veiled id left right)) (respond (inMemory publisher) r)
      (respond (inMemory publisher) r) := by
  cases r with
  | command occasion => exact (handle_foreign hx hy howner hr).bind fun reply => Agrees.pure _
  | query layout q => exact (ask_foreign hx hy howner hr).bind fun reply => Agrees.pure _

end

end Engine

end ScriptedChat
