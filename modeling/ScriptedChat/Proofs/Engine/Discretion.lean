import ScriptedChat.Proofs.Bus.AllOrNothing
import ScriptedChat.Proofs.Conversation.Steps
import ScriptedChat.Proofs.Engine.Masking

/-!
The engine is discreet. Over stores that hold the same but for the credentials of the bots, and a
publisher that does not look into the payload of what it is handed, everything that operators and
users ask for has the same outcome, up to the credentials of the bots that are returned. A list of
bots is not among it, since its order also shows how the map of bots is laid out.
-/
namespace ScriptedChat

open ScriptedChat.Action

namespace Agrees

variable {ε ε' σ τ α β γ : Type} {tied : σ → τ → Prop}

/-- What follows on outcomes that agree in one respect may rely on that. -/
theorem bind_map {φ : α → γ} {x : ExceptT ε (StateM σ) α} {y : ExceptT ε (StateM τ) α}
    {f : α → ExceptT ε (StateM σ) β} {g : α → ExceptT ε (StateM τ) β}
    (hx : Agrees tied (φ <$> x) (φ <$> y))
    (hf : ∀ a b, φ a = φ b → Agrees tied (f a) (g b)) : Agrees tied (x >>= f) (y >>= g) := by
  intro s t h
  obtain ⟨hsame, htied⟩ := hx s t h
  rw [exec_map, exec_map] at hsame htied
  rw [exec_bind, exec_bind]
  cases hs : exec x s with
  | mk r s' =>
    cases ht : exec y t with
    | mk r' t' =>
      rw [hs, ht] at hsame htied
      cases r with
      | error e =>
        cases r' with
        | error e' =>
          cases hsame
          exact ⟨rfl, htied⟩
        | ok b => cases hsame
      | ok a =>
        cases r' with
        | error e' => cases hsame
        | ok b => exact hf a b (Except.ok.inj hsame) s' t' htied

/-- Outcomes that agree still agree when their errors are told in another way. -/
theorem adapt {x : ExceptT ε (StateM σ) α} {y : ExceptT ε (StateM τ) α} (h : Agrees tied x y)
    (f : ε → ε') : Agrees tied (ExceptT.adapt f x) (ExceptT.adapt f y) := by
  intro s t hst
  obtain ⟨hsame, htied⟩ := h s t hst
  rw [exec_adapt, exec_adapt, hsame]
  exact ⟨rfl, htied⟩

theorem adapt_map {φ : α → γ} {x : ExceptT ε (StateM σ) α} {y : ExceptT ε (StateM τ) α}
    (h : Agrees tied (φ <$> x) (φ <$> y)) (f : ε → ε') :
    Agrees tied (φ <$> ExceptT.adapt f x) (φ <$> ExceptT.adapt f y) := by
  have hswap : ∀ {ρ : Type} (z : ExceptT ε (StateM ρ) α) (s : ρ),
      exec (φ <$> ExceptT.adapt f z) s = exec (ExceptT.adapt f (φ <$> z)) s := by
    intro ρ z s
    rw [exec_map, exec_adapt, exec_adapt, exec_map]
    cases (exec z s).1 <;> rfl
  intro s t hst
  rw [hswap, hswap]
  exact h.adapt f s t hst

end Agrees

/-- What can be seen of an envelope from outside. -/
def Envelope.header (e : Envelope) : Topic × String := (e.topic, e.destination)

/-- Whether a publisher treats batches alike that look the same from outside, as long as its states
are alike. -/
structure Publisher.Blind {π : Type} (publisher : Publisher π) (alike : π → π → Prop) : Prop where
  outcome : ∀ batch batch' w w', batch.map Envelope.header = batch'.map Envelope.header →
    alike w w' → ((publisher batch).run w).1 = ((publisher batch').run w').1
  state : ∀ batch batch' w w', batch.map Envelope.header = batch'.map Envelope.header →
    alike w w' → alike ((publisher batch).run w).2 ((publisher batch').run w').2

/-- A recorder looks at nothing but what it was told to refuse. -/
theorem Recorder.blind : Publisher.Blind Recorder.publish fun r r' =>
    r.down = r'.down ∧ r.failing = r'.failing where
  outcome batch batch' r r' _ h := by
    rw [run_publish, run_publish, h.1, h.2]
    split <;> rfl
  state batch batch' r r' _ h := by
    rw [run_publish, run_publish, h.1, h.2]
    split
    · exact ⟨rfl, rfl⟩
    · exact ⟨rfl, rfl⟩

/-- Worlds with stores that hold the same but for credentials, and publishers in like states. -/
structure Veil {π : Type} (alike : π → π → Prop) (x y : Memory × π) : Prop where
  stores : x.1.SameButTokens y.1
  publisher : alike x.2 y.2

namespace Veil

variable {π α : Type} {alike : π → π → Prop}

/-- What is done to the stores only. -/
theorem stored {x y : Action Memory α} (h : Agrees Memory.SameButTokens x y) :
    Agrees (Veil alike) (Engine.storePart.act x) (Engine.storePart.act y) := by
  intro s t hst
  obtain ⟨hsame, htied⟩ := h s.1 t.1 hst.stores
  exact ⟨hsame, htied, hst.publisher⟩

theorem stored_map {γ : Type} {φ : α → γ} {x y : Action Memory α}
    (h : Agrees Memory.SameButTokens (φ <$> x) (φ <$> y)) :
    Agrees (Veil alike) (φ <$> Engine.storePart.act x : Action (Memory × π) γ)
      (φ <$> Engine.storePart.act y) := by
  intro s t hst
  obtain ⟨hsame, htied⟩ := h s.1 t.1 hst.stores
  rw [exec_map, exec_map] at hsame htied
  rw [exec_map, exec_map]
  exact ⟨hsame, htied, hst.publisher⟩

end Veil

namespace Engine

variable {π α : Type} {publisher : Publisher π} {alike : π → π → Prop} {setting : Setting}
  {layout layout' : Memory.Layout} {id : Uuid} {owner : UserId}

/-- What follows on a bot may rely on it but for its credential. -/
theorem bind_getBot_veiled {f g : Bot → Action (Memory × π) α}
    (hf : ∀ bot token, bot.id = id →
      Agrees (Veil alike) (f bot) (g { bot with token := token })) :
    Agrees (Veil alike) ((inMemory publisher layout).stores.getBot id >>= f)
      ((inMemory publisher layout').stores.getBot id >>= g) := by
  intro s t hst
  obtain ⟨m, w⟩ := s
  obtain ⟨m', w'⟩ := t
  rw [exec_bind, exec_bind]
  simp only [ofParts_stores, Stores.within, Memory.stores, exec_act, storePart_get, storePart_set]
  rcases hst.stores.found id with ⟨hnone, hnone'⟩ | ⟨bot, token, hid, hbot, hbot'⟩
  · rw [Memory.exec_getBot_none hnone, Memory.exec_getBot_none hnone']
    exact ⟨rfl, hst⟩
  · rw [Memory.exec_getBot_some hbot, Memory.exec_getBot_some hbot']
    exact hf bot token hid (m, w) (m', w') hst

/-- What follows on the bot of an owner may rely on it but for its credential. -/
theorem bind_ownedBot_veiled {f g : Bot → Action (Memory × π) α}
    (hf : ∀ bot token, bot.id = id →
      Agrees (Veil alike) (f bot) (g { bot with token := token })) :
    Agrees (Veil alike) ((inMemory publisher layout).ownedBot id owner >>= f)
      ((inMemory publisher layout').ownedBot id owner >>= g) := by
  rw [ownedBot, ownedBot, bind_assoc, bind_assoc]
  apply bind_getBot_veiled
  intro bot token hid
  rw [bind_assoc, bind_assoc]
  exact (Agrees.lift (bot.ensureOwner owner)).bind fun _ => hf bot token hid

theorem ownedBot_veiled :
    Agrees (Veil alike) (Bot.masked <$> (inMemory publisher layout).ownedBot id owner)
      (Bot.masked <$> (inMemory publisher layout').ownedBot id owner) := by
  rw [map_eq_pure_bind]
  apply bind_ownedBot_veiled
  intro bot token _
  exact Agrees.pure bot.masked

theorem createBot_veiled {draft : BotDraft} {token : String}
    (hblank : Text.isBlank draft.token = Text.isBlank token) :
    Agrees (Veil alike) (Bot.masked <$> (inMemory publisher layout).createBot setting draft)
      (Bot.masked <$> (inMemory publisher layout').createBot setting
        { draft with token := token }) := by
  rw [createBot, createBot, Bot.create_token draft hblank, map_eq_pure_bind, map_eq_pure_bind,
    bind_assoc, bind_assoc]
  cases Bot.create draft setting.cycles setting.now with
  | error e => exact Agrees.throw e
  | ok bot =>
    show Agrees (Veil alike)
      ((storePart.act (Memory.createBot bot) >>= fun _ => pure bot) >>= fun bot =>
        pure bot.masked)
      ((storePart.act (Memory.createBot { bot with token := token }) >>= fun _ =>
        pure { bot with token := token }) >>= fun bot => pure bot.masked)
    rw [bind_assoc, bind_assoc]
    exact (Veil.stored (Memory.createBot_masked bot token)).bind fun _ => Agrees.pure bot.masked

theorem setScript_veiled (entries : List EntryPoint) (blocks : List Block) :
    Agrees (Veil alike)
      (Bot.masked <$> (inMemory publisher layout).setScript setting id owner entries blocks)
      (Bot.masked <$> (inMemory publisher layout').setScript setting id owner entries blocks) :=
  Veil.stored_map (Memory.updateBot_masked (Bot.ensureOwner_sparesToken owner
    (Bot.setScript_sparesToken entries blocks setting.cycles setting.now)))

theorem addMailing_veiled (mailing : Mailing) :
    Agrees (Veil alike)
      (Bot.masked <$> (inMemory publisher layout).addMailing setting id owner mailing)
      (Bot.masked <$> (inMemory publisher layout').addMailing setting id owner mailing) :=
  Veil.stored_map (Memory.updateBot_masked (Bot.ensureOwner_sparesToken owner
    (Bot.addMailing_sparesToken mailing setting.now)))

theorem answers_veiled :
    Agrees (Veil alike) ((inMemory publisher layout).answers id owner)
      ((inMemory publisher layout').answers id owner) := by
  apply bind_ownedBot_veiled
  intro bot token _
  exact (Veil.stored Memory.participantsOfBot_masked).bind fun participants => Agrees.pure _

theorem participant_veiled (address : Address) :
    Agrees (Veil alike) ((inMemory publisher layout).participant address owner)
      ((inMemory publisher layout').participant address owner) := by
  apply bind_ownedBot_veiled
  intro bot token _
  exact Veil.stored (Memory.getParticipant_masked address)

section
variable (hblind : publisher.Blind alike)
include hblind

theorem publish_veiled {batch batch' : List Envelope}
    (hbatch : batch.map Envelope.header = batch'.map Envelope.header) :
    Agrees (Veil alike) ((inMemory publisher layout).publish batch)
      ((inMemory publisher layout').publish batch') := by
  intro s t hst
  obtain ⟨m, w⟩ := s
  obtain ⟨m', w'⟩ := t
  rw [exec_publish, exec_publish, published, published,
    hblind.outcome batch batch' w w' hbatch hst.publisher]
  exact ⟨rfl, hst.stores, hblind.state batch batch' w w' hbatch hst.publisher⟩

theorem publishMessages_veiled (address : Address) (messages : List Message) :
    Agrees (Veil alike) ((inMemory publisher layout).publishMessages address messages)
      ((inMemory publisher layout').publishMessages address messages) :=
  Agrees.ite (Agrees.pure ()) (publish_veiled hblind rfl)

/-- A start carries the credential in its payload. -/
theorem startBot_veiled :
    Agrees (Veil alike) ((inMemory publisher layout).startBot setting id owner)
      ((inMemory publisher layout').startBot setting id owner) := by
  apply bind_ownedBot_veiled
  intro bot token _
  have hpublish : Agrees (Veil alike)
      ((inMemory publisher layout).publish [.lifecycle (.start bot.id bot.token)])
      ((inMemory publisher layout').publish [.lifecycle (.start bot.id token)]) :=
    publish_veiled hblind rfl
  apply Agrees.bind
  · apply hpublish.tryCatch
    intro e
    apply Agrees.bind (Veil.stored (Memory.setStatus_masked .failed setting.now))
    intro _
    exact Agrees.throw e
  · intro _
    exact Veil.stored (Memory.setStatus_masked .started setting.now)

theorem stopBot_veiled :
    Agrees (Veil alike) ((inMemory publisher layout).stopBot setting id owner)
      ((inMemory publisher layout').stopBot setting id owner) := by
  apply bind_ownedBot_veiled
  intro bot token _
  apply Agrees.bind (publish_veiled hblind rfl)
  intro _
  exact Veil.stored (Memory.setStatus_masked .stopped setting.now)

theorem deleteBot_veiled :
    Agrees (Veil alike) ((inMemory publisher layout).deleteBot id owner)
      ((inMemory publisher layout').deleteBot id owner) := by
  apply bind_ownedBot_veiled
  intro bot token _
  have hdelete : Agrees (Veil alike)
      (do
        (inMemory publisher layout).stores.deleteParticipants bot.id
        (inMemory publisher layout).stores.deleteBot bot.id)
      (do
        (inMemory publisher layout').stores.deleteParticipants bot.id
        (inMemory publisher layout').stores.deleteBot bot.id) :=
    (Veil.stored Memory.deleteParticipants_masked).bind fun _ =>
      Veil.stored Memory.deleteBot_masked
  apply Agrees.ite
  · exact (publish_veiled hblind rfl).bind fun _ => hdelete
  · exact hdelete

theorem enter_veiled (address : Address) (key : String) :
    Agrees (Veil alike) ((inMemory publisher layout).enter address key)
      ((inMemory publisher layout').enter address key) := by
  apply bind_getBot_veiled
  intro bot token _
  have hupdate := Memory.updateParticipant_masked address fun p => p.enter bot.script key
  apply (Veil.stored hupdate).bind
  intro messages
  apply Agrees.bind (publishMessages_veiled hblind address messages)
  intro _
  exact Agrees.pure messages

theorem process_veiled (address : Address) (input : String) :
    Agrees (Veil alike) ((inMemory publisher layout).process address input)
      ((inMemory publisher layout').process address input) := by
  apply bind_getBot_veiled
  intro bot token _
  have hupdate := Memory.updateParticipant_masked address fun p => p.reply bot.script input
  apply (Veil.stored hupdate).bind
  intro transition
  apply Agrees.bind (publishMessages_veiled hblind address transition.messages)
  intro _
  exact Agrees.pure transition

theorem reach_veiled (bot : Bot) (token : String) (mailing : Mailing) (user : UserId) :
    Agrees (Veil alike) ((inMemory publisher layout).reach bot mailing user)
      ((inMemory publisher layout').reach { bot with token := token } mailing user) := by
  have hupdate := Memory.updateParticipant_masked ⟨bot.id, user⟩ (mailing.visit bot.script)
  apply Agrees.bind
  · apply Agrees.tryCatch
    · apply (Veil.stored hupdate).bind
      intro outcome
      cases outcome with
      | none => exact Agrees.pure _
      | some messages =>
        apply Agrees.bind (publishMessages_veiled hblind ⟨bot.id, user⟩ messages)
        intro _
        exact Agrees.pure _
    · intro _
      exact Agrees.pure _
  · intro reached
    cases reached with
    | error r => exact Agrees.pure r
    | ok r => exact Agrees.pure r

theorem sendMailing_veiled (name : String) :
    Agrees (Veil alike) ((inMemory publisher layout).sendMailing id owner name)
      ((inMemory publisher layout').sendMailing id owner name) := by
  apply bind_ownedBot_veiled
  intro bot token _
  have hsame : ({ bot with token := token } : Bot).mailing? name = bot.mailing? name := rfl
  rw [hsame]
  cases bot.mailing? name with
  | none => exact Agrees.throw (Error.mailingNotFound name)
  | some mailing =>
    apply Agrees.bind (Veil.stored Memory.participantsOfBot_masked)
    intro audience
    apply Agrees.foldlM
    intro n p
    apply Agrees.bind (reach_veiled hblind bot token mailing p.address.user)
    intro reached
    exact Agrees.pure _

end

end Engine

end ScriptedChat
