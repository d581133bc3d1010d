import ScriptedChat.Proofs.Agreement
import ScriptedChat.Proofs.Conversation.Steps
import ScriptedChat.Proofs.Engine.World

/-!
The engine over two kinds of stores that serve one bot alike. The stores are tied by a relation,
and more closely once the bot was found in them. Where they read the bot, delete it, and list and
change its participants alike, what is done to the bot has the same outcome over both, hands the
same batches to the publisher, and leaves tied stores.
-/
namespace ScriptedChat

open ScriptedChat.Action

/-- Worlds with tied stores and the same publisher. -/
def Paired {σ τ π : Type} (tied : σ → τ → Prop) (x : σ × π) (y : τ × π) : Prop :=
  tied x.1 y.1 ∧ x.2 = y.2

/-- The same outcome from states tied in one way, which are tied in another way then. -/
def AgreesFrom {ε σ τ α : Type} (before after : σ → τ → Prop) (x : ExceptT ε (StateM σ) α)
    (y : ExceptT ε (StateM τ) α) : Prop :=
  ∀ s t, before s t → (exec x s).1 = (exec y t).1 ∧ after (exec x s).2 (exec y t).2

namespace Paired

variable {σ τ π α β : Type} {tied : σ → τ → Prop}

/-- What is done to the stores only. -/
theorem stored {x : Action σ α} {y : Action τ α} (h : Agrees tied x y) :
    Agrees (Paired tied) (Engine.storePart.act x : Action (σ × π) α)
      (Engine.storePart.act y) := by
  intro s t hst
  obtain ⟨hstores, hpublisher⟩ := hst
  obtain ⟨hsame, htied⟩ := h s.1 t.1 hstores
  exact ⟨hsame, htied, hpublisher⟩

/-- A batch is published to one publisher. -/
theorem publish (stores : Stores σ) (stores' : Stores τ) (publisher : Publisher π)
    (batch : List Envelope) :
    Agrees (Paired tied) ((Engine.ofParts stores publisher).publish batch)
      ((Engine.ofParts stores' publisher).publish batch) := by
  intro s t hst
  obtain ⟨s, w⟩ := s
  obtain ⟨t, w'⟩ := t
  obtain ⟨hstores, rfl⟩ := hst
  rw [Engine.exec_publish, Engine.exec_publish]
  exact ⟨rfl, hstores, rfl⟩

theorem publishMessages (stores : Stores σ) (stores' : Stores τ) (publisher : Publisher π)
    (address : Address) (messages : List Message) :
    Agrees (Paired tied) ((Engine.ofParts stores publisher).publishMessages address messages)
      ((Engine.ofParts stores' publisher).publishMessages address messages) :=
  Agrees.ite (Agrees.pure ()) (publish stores stores' publisher _)

end Paired

theorem Engine.storePart_act_bind {σ π α β : Type} (x : Action σ α) (f : α → Action σ β) :
    (storePart.act (x >>= f) : Action (σ × π) β) =
      storePart.act x >>= fun a => storePart.act (f a) := by
  funext s
  show exec (storePart.act (x >>= f)) s = exec (storePart.act x >>= fun a => storePart.act (f a)) s
  rw [exec_act, exec_bind, exec_bind, exec_act]
  cases exec x (storePart.get s) with
  | mk r s' => cases r <;> rfl

/-- Stores of two kinds that serve a bot alike, as far as changes of participants are allowed.
Stores in which the bot was found are tied by `found`. -/
structure Stores.Alike {σ τ : Type} (stores : Stores σ) (stores' : Stores τ)
    (tied found : σ → τ → Prop)
    (allowed : ∀ α : Type, (Participant → Except Error (α × Participant)) → Prop) (id : Uuid) :
    Prop where
  weaken : ∀ s t, found s t → tied s t
  getBot : ∀ s t, tied s t →
    (∃ e, exec (stores.getBot id) s = (.error e, s) ∧ exec (stores'.getBot id) t = (.error e, t)) ∨
    ∃ bot, bot.id = id ∧ exec (stores.getBot id) s = (.ok bot, s) ∧
      exec (stores'.getBot id) t = (.ok bot, t) ∧ found s t
  delete : Agrees tied (do stores.deleteParticipants id; stores.deleteBot id)
    (do stores'.deleteParticipants id; stores'.deleteBot id)
  participantsOfBot : Agrees found (stores.participantsOfBot id) (stores'.participantsOfBot id)
  updateParticipant : ∀ {α : Type} (user : UserId)
    (change : Participant → Except Error (α × Participant)), allowed α change →
      Agrees found (stores.updateParticipant ⟨id, user⟩ change)
        (stores'.updateParticipant ⟨id, user⟩ change)

namespace Stores.Alike

open Engine

variable {σ τ π α : Type} {stores : Stores σ} {stores' : Stores τ} {tied found : σ → τ → Prop}
  {allowed : ∀ α : Type, (Participant → Except Error (α × Participant)) → Prop}
  {setting : Setting} {id : Uuid}

section
variable (h : Alike stores stores' tied found allowed id) (publisher : Publisher π)
include h

/-- Stores in which the bot was found are tied again after what agrees on tied stores. -/
theorem of_tied {x : Action (σ × π) α} {y : Action (τ × π) α} (hxy : Agrees (Paired tied) x y) :
    AgreesFrom (Paired found) (Paired tied) x y :=
  fun s t hst => hxy s t ⟨h.weaken _ _ hst.1, hst.2⟩

/-- They are tied as well after what agrees while the bot is there. -/
theorem of_found {x : Action (σ × π) α} {y : Action (τ × π) α} (hxy : Agrees (Paired found) x y) :
    AgreesFrom (Paired found) (Paired tied) x y := by
  intro s t hst
  obtain ⟨hsame, hstores, hpublisher⟩ := hxy s t hst
  exact ⟨hsame, h.weaken _ _ hstores, hpublisher⟩

/-- What follows on the bot once it is found may rely on the bot. -/
theorem bind_getBot {f : Bot → Action (σ × π) α} {g : Bot → Action (τ × π) α}
    (hf : ∀ bot, bot.id = id → AgreesFrom (Paired found) (Paired tied) (f bot) (g bot)) :
    Agrees (Paired tied) ((ofParts stores publisher).stores.getBot id >>= f)
      ((ofParts stores' publisher).stores.getBot id >>= g) := by
  intro s t hst
  obtain ⟨s, w⟩ := s
  obtain ⟨t, w'⟩ := t
  obtain ⟨htied, rfl⟩ := hst
  rw [exec_bind, exec_bind]
  simp only [ofParts_stores, Stores.within, exec_act, storePart_get, storePart_set]
  rcases h.getBot s t htied with ⟨e, hs, ht⟩ | ⟨bot, hid, hs, ht, hfound⟩
  · rw [hs, ht]
    exact ⟨rfl, htied, rfl⟩
  · rw [hs, ht]
    exact hf bot hid (s, w) (t, w) ⟨hfound, rfl⟩

/-- What follows on the bot of the owner may rely on the bot. -/
theorem bind_ownedBot (owner : UserId) {f : Bot → Action (σ × π) α} {g : Bot → Action (τ × π) α}
    (hf : ∀ bot, bot.id = id → AgreesFrom (Paired found) (Paired tied) (f bot) (g bot)) :
    Agrees (Paired tied) ((ofParts stores publisher).ownedBot id owner >>= f)
      ((ofParts stores' publisher).ownedBot id owner >>= g) := by
  rw [ownedBot, ownedBot, bind_assoc, bind_assoc]
  apply h.bind_getBot publisher
  intro bot hid
  rw [bind_assoc, bind_assoc]
  intro s t hst
  rw [exec_bind, exec_bind, exec_lift, exec_lift]
  cases bot.ensureOwner owner with
  | error e => exact ⟨rfl, h.weaken _ _ hst.1, hst.2⟩
  | ok _ => exact hf bot hid s t hst

theorem ownedBot_agrees (owner : UserId) :
    Agrees (Paired tied) ((ofParts stores publisher).ownedBot id owner)
      ((ofParts stores' publisher).ownedBot id owner) := by
  rw [← bind_pure ((ofParts stores publisher).ownedBot id owner),
    ← bind_pure ((ofParts stores' publisher).ownedBot id owner)]
  apply h.bind_ownedBot publisher
  intro bot _
  exact h.of_tied (Agrees.pure bot)

section
variable (hstatus : ∀ status, Agrees tied (stores.setStatus id status setting.now)
  (stores'.setStatus id status setting.now))
include hstatus

theorem startBot_agrees (owner : UserId) :
    Agrees (Paired tied) ((ofParts stores publisher).startBot setting id owner)
      ((ofParts stores' publisher).startBot setting id owner) := by
  apply h.bind_ownedBot publisher
  intro bot hid
  subst hid
  apply h.of_tied
  apply Agrees.bind
  · apply Agrees.tryCatch (Paired.publish _ _ _ _)
    intro e
    apply Agrees.bind (Paired.stored (hstatus .failed))
    intro _
    exact Agrees.throw e
  · intro _
    exact Paired.stored (hstatus .started)

theorem stopBot_agrees (owner : UserId) :
    Agrees (Paired tied) ((ofParts stores publisher).stopBot setting id owner)
      ((ofParts stores' publisher).stopBot setting id owner) := by
  apply h.bind_ownedBot publisher
  intro bot hid
  subst hid
  apply h.of_tied
  apply Agrees.bind (Paired.publish _ _ _ _)
  intro _
  exact Paired.stored (hstatus .stopped)

end

theorem deleteBot_agrees (owner : UserId) :
    Agrees (Paired tied) ((ofParts stores publisher).deleteBot id owner)
      ((ofParts stores' publisher).deleteBot id owner) := by
  apply h.bind_ownedBot publisher
  intro bot hid
  subst hid
  apply h.of_tied
  have hdelete := Paired.stored (π := π) h.delete
  rw [storePart_act_bind, storePart_act_bind] at hdelete
  apply Agrees.ite
  · apply Agrees.bind (Paired.publish _ _ _ _)
    intro _
    exact hdelete
  · exact hdelete

/-- Answers may be computed from the participants of the bot. -/
theorem answers_agrees (owner : UserId) :
    Agrees (Paired tied) ((ofParts stores publisher).answers id owner)
      ((ofParts stores' publisher).answers id owner) := by
  apply h.bind_ownedBot publisher
  intro bot _
  apply h.of_found
  apply Agrees.bind (Paired.stored h.participantsOfBot)
  intro participants
  exact Agrees.pure _

theorem enter_agrees (user : UserId) {key : String}
    (hallowed : ∀ script, allowed _ fun p => p.enter script key) :
    Agrees (Paired tied) ((ofParts stores publisher).enter ⟨id, user⟩ key)
      ((ofParts stores' publisher).enter ⟨id, user⟩ key) := by
  apply h.bind_getBot publisher
  intro bot _
  apply h.of_found
  apply Agrees.bind (Paired.stored (h.updateParticipant user _ (hallowed bot.script)))
  intro messages
  apply Agrees.bind (Paired.publishMessages _ _ _ _ _)
  intro _
  exact Agrees.pure messages

theorem process_agrees (user : UserId) {input : String}
    (hallowed : ∀ script, allowed _ fun p => p.reply script input) :
    Agrees (Paired tied) ((ofParts stores publisher).process ⟨id, user⟩ input)
      ((ofParts stores' publisher).process ⟨id, user⟩ input) := by
  apply h.bind_getBot publisher
  intro bot _
  apply h.of_found
  apply Agrees.bind (Paired.stored (h.updateParticipant user _ (hallowed bot.script)))
  intro transition
  apply Agrees.bind (Paired.publishMessages _ _ _ _ _)
  intro _
  exact Agrees.pure transition

section
variable (hallowed : ∀ (script : Script) (mailing : Mailing), allowed _ (mailing.visit script))
include hallowed

/-- The turn of one user in a mailing. -/
theorem reach_agrees {bot : Bot} (hid : bot.id = id) (mailing : Mailing) (user : UserId) :
    Agrees (Paired found) ((ofParts stores publisher).reach bot mailing user)
      ((ofParts stores' publisher).reach bot mailing user) := by
  subst hid
  apply Agrees.bind
  · apply Agrees.tryCatch
    · apply Agrees.bind (Paired.stored (h.updateParticipant user _ (hallowed bot.script mailing)))
      intro outcome
      cases outcome with
      | none => exact Agrees.pure _
      | some messages =>
        apply Agrees.bind (Paired.publishMessages _ _ _ _ _)
        intro _
        exact Agrees.pure _
    · intro _
      exact Agrees.pure _
  · intro reached
    cases reached with
    | error r => exact Agrees.pure r
    | ok r => exact Agrees.pure r

theorem sendMailing_agrees (owner : UserId) (name : String) :
    Agrees (Paired tied) ((ofParts stores publisher).sendMailing id owner name)
      ((ofParts stores' publisher).sendMailing id owner name) := by
  apply h.bind_ownedBot publisher
  intro bot hid
  apply h.of_found
  cases bot.mailing? name with
  | none => exact Agrees.throw (Error.mailingNotFound name)
  | some mailing =>
    rw [hid]
    apply Agrees.bind (Paired.stored h.participantsOfBot)
    intro audience
    apply Agrees.foldlM
    intro n p
    apply Agrees.bind (h.reach_agrees publisher hallowed hid mailing p.address.user)
    intro reached
    exact Agrees.pure _

end

end

end Stores.Alike

end ScriptedChat
