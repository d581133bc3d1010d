import ScriptedChat.Proofs.Engine.Boundary
import ScriptedChat.Proofs.Report

/-!
Identifiers that no bot has. A deleted bot leaves nothing behind under its identifier, and nothing
comes there until a bot is made under it again. So the new bot starts without participants, and its
answers table is empty.
-/
namespace ScriptedChat

/-- Stores that hold nothing of a bot. -/
structure Memory.Vacant (id : Uuid) (m : Memory) : Prop where
  bot : m.bots.get? id = none
  participants : ∀ user, m.participants.get? ⟨id, user⟩ = none

namespace Memory.Vacant

variable {id : Uuid} {m m' : Memory}

theorem of_agreeOn (h : Vacant id m) (hagree : AgreeOn id m' m) : Vacant id m' where
  bot := hagree.bot.trans h.bot
  participants user := (hagree.participants user).trans (h.participants user)

theorem dropBot (id : Uuid) (m : Memory) : Vacant id (m.dropBot id) where
  bot := by rw [get?_dropBot, if_pos rfl]
  participants user := by
    apply Table.get?_eq_none_iff.2
    intro p hp heq
    have hbot := (Table.mem_filter.1 hp).2
    rw [heq] at hbot
    simp at hbot

theorem participantsOfBot (h : Vacant id m) :
    (m.participants.rows.filter fun p => p.address.bot = id) = [] := by
  apply List.filter_eq_nil_iff.2
  intro p hp hbot
  have hbot : p.address.bot = id := of_decide_eq_true hbot
  have hget := h.participants p.address.user
  rw [← hbot] at hget
  exact absurd rfl (Table.get?_eq_none_iff.1 hget p hp)

end Memory.Vacant

namespace Engine

open ScriptedChat.Action

variable {π : Type} {publisher : Publisher π} {layout layout' : Memory.Layout} {setting : Setting}
  {m : Memory} {w : π} {c : Command} {r : Except Error Reply} {world : Memory × π} {id : Uuid}

/-- A command on a bot that is not stored does nothing, unless it makes the bot. -/
theorem Effect.absent (h : Effect publisher setting m w c r world) (hc : c.bot? = some id)
    (hnone : m.bots.get? id = none) : world.1 = m ∨ Step.Creates id ⟨m, c, r⟩ := by
  cases h with
  | refused | stopFailed | deleteFailed => exact Or.inl rfl
  | created draft bot =>
    exact Or.inr ⟨Or.inl ⟨_, rfl⟩, draft, rfl, Option.some.inj hc⟩
  | scriptSet _ _ _ _ _ _ hbot | mailingAdded _ _ _ _ _ hbot | started _ _ _ hbot
  | startFailed _ _ _ _ hbot | stopped _ _ _ hbot | deletedIdle _ _ _ hbot
  | deletedRunning _ _ _ hbot | entered _ _ _ _ _ hbot | processed _ _ _ _ _ hbot
  | mailed _ _ _ _ _ hbot =>
    cases hc
    rw [hnone] at hbot
    cases hbot
  | resumed | resumeFailed | resumedNone => cases hc

/-- A command leaves an identifier vacant, unless it makes a bot there. -/
theorem Effect.vacant (h : Effect publisher setting m w c r world) (hm : m.Vacant id)
    (hcreates : ¬ Step.Creates id ⟨m, c, r⟩) : world.1.Vacant id := by
  cases hc : c.bot? with
  | none =>
    cases h with
    | refused | resumed | resumeFailed | resumedNone => exact hm
    | created | scriptSet | mailingAdded | started | startFailed | stopped | stopFailed
    | deletedIdle | deletedRunning | deleteFailed | entered | processed | mailed => cases hc
  | some other =>
    by_cases hother : id = other
    · subst hother
      rw [(h.absent hc hm.bot).resolve_right hcreates]
      exact hm
    · exact hm.of_agreeOn ((h.outside hc).agreeOn hother)

/-- So does a run in which no bot is made there. -/
theorem vacant_carryOutAll (requests : List Occasion) {world : Memory × π}
    (hm : world.1.Vacant id)
    (hcreates : ∀ step ∈ history publisher world requests, ¬ step.Creates id) :
    (carryOutAll publisher world requests).1.Vacant id := by
  induction requests generalizing world with
  | nil => exact hm
  | cons request rest ih =>
    obtain ⟨hfirst, hrest⟩ := List.forall_mem_cons.1 hcreates
    obtain ⟨m, w⟩ := world
    have heffect := handle_effect publisher request.layout request.setting m w request.command
    exact ih (heffect.vacant hm hfirst) hrest

theorem Effect.deleted {owner : UserId} {reply : Reply}
    (h : Effect publisher setting m w (.deleteBot id owner) (.ok reply) world) :
    (m.bots.get? id).isSome ∧ world.1 = m.dropBot id := by
  cases h with
  | deletedIdle _ _ bot hbot | deletedRunning _ _ bot hbot =>
    exact ⟨Option.isSome_of_eq_some hbot, rfl⟩

/-- A bot that is made under a vacant identifier has no participants and no answers. -/
theorem made_afresh (publisher : Publisher π) (setting : Setting) {draft : BotDraft} {bot : Bot}
    {world : Memory × π} (hm : world.1.Vacant draft.id)
    (hmade : (exec ((inMemory publisher layout).handle setting (.createBot draft)) world).1 =
      .ok (.bot bot)) :
    let made := (exec ((inMemory publisher layout).handle setting (.createBot draft)) world).2
    made.1.bots.get? draft.id = some bot ∧
      (∀ user, made.1.participants.get? ⟨draft.id, user⟩ = none) ∧
      exec ((inMemory publisher layout').ask (.answers draft.id bot.owner)) made =
        (.ok (.answers (.build bot.script [])), made) := by
  intro made
  obtain ⟨m, w⟩ := world
  have heffect : Effect publisher setting m w (.createBot draft)
      (exec ((inMemory publisher layout).handle setting (.createBot draft)) (m, w)).1 made :=
    handle_effect publisher layout setting m w (.createBot draft)
  rw [hmade] at heffect
  generalize made = made at heffect
  cases heffect with
  | created _ _ hbot hfree =>
    have hid : bot.id = draft.id := by
      obtain ⟨_, _, _, _, rfl⟩ := Bot.create_ok_iff.1 hbot
      rfl
    have hstored : (m.saveBot bot).bots.get? draft.id = some bot := by
      rw [Memory.get?_saveBot, if_pos hid]
    have hlist : exec ((inMemory publisher layout').stores.participantsOfBot draft.id)
        (m.saveBot bot, w) = (.ok [], (m.saveBot bot, w)) := by
      rw [← hm.participantsOfBot]
      rfl
    refine ⟨hstored, hm.participants, ?_⟩
    simp only [ask, answers, exec_bind, exec_ownedBot publisher w hstored, hlist, exec_pure]

end Engine

end ScriptedChat
