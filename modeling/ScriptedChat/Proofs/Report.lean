import Mathlib.Data.List.Forall2
import Mathlib.Data.List.Induction
import ScriptedChat.Proofs.History

/-!
The answers table tells the history. A run from empty stores is recorded step by step. For a bot
that is stored at its end, the steps since the bot was made last account for each of its users:
the user is listed when there is a committed entry or input, and an answer is kept when it was
the last one given and no entry was made since that forgets it. Each step keeps this, so it
holds of the whole run, and the table says it in its rows and cells.
-/
namespace ScriptedChat

namespace Engine

open ScriptedChat.Action

variable {π : Type}

/-- The world after a command. -/
def carryOut (publisher : Publisher π) (world : Memory × π) (request : Occasion) : Memory × π :=
  (exec ((inMemory publisher request.layout).handle request.setting request.command) world).2

/-- The world after commands that are carried out one by one. -/
def carryOutAll (publisher : Publisher π) (world : Memory × π)
    (requests : List Occasion) : Memory × π :=
  requests.foldl (carryOut publisher) world

/-- The steps of a run. -/
def history (publisher : Publisher π) : Memory × π → List Occasion → List Step
  | _, [] => []
  | world, request :: rest =>
    ⟨world.1, request.command,
      (exec ((inMemory publisher request.layout).handle request.setting request.command)
        world).1⟩ ::
      history publisher (carryOut publisher world request) rest

theorem carryOutAll_concat (publisher : Publisher π) (world : Memory × π)
    (requests : List Occasion) (request : Occasion) :
    carryOutAll publisher world (requests ++ [request]) =
      carryOut publisher (carryOutAll publisher world requests) request := by
  simp [carryOutAll]

theorem history_concat (publisher : Publisher π) (world : Memory × π)
    (requests : List Occasion) (request : Occasion) :
    history publisher world (requests ++ [request]) =
      history publisher world requests ++
        [⟨(carryOutAll publisher world requests).1, request.command,
          (exec ((inMemory publisher request.layout).handle request.setting request.command)
            (carryOutAll publisher world requests)).1⟩] := by
  induction requests generalizing world with
  | nil => rfl
  | cons first rest ih =>
    show _ :: history publisher (carryOut publisher world first) (rest ++ [request]) = _
    rw [ih]
    rfl

end Engine

/-- Steps account for what stores hold of a user. -/
structure Accounts (later : List Step) (m : Memory) (address : Address) : Prop where
  listed : (m.participants.get? address).isSome ↔ ∃ step ∈ later, step.Visits address
  told : ∀ s ≠ finished, ∀ text, m.told address s = some text ↔
    Latest (Step.Tells address s) (Step.Voids address s) later text

theorem Accounts.concat {later : List Step} {step : Step} {address : Address} {after : Memory}
    (h : Accounts later step.before address) (hstep : step.Follows address after) :
    Accounts (later ++ [step]) after address where
  listed := by
    rw [hstep.visited, h.listed]
    simp [or_and_right, exists_or, or_comm]
  told s hs text := by
    rw [hstep.told s hs, Latest.concat_iff, h.told s hs]

/-- The steps since a bot was made last account for all its users. -/
def Tracks (history : List Step) (m : Memory) (id : Uuid) : Prop :=
  ∃ earlier creation later, history = earlier ++ creation :: later ∧ creation.Creates id ∧
    (∀ step ∈ later, ¬ step.Creates id) ∧ ∀ user, Accounts later m ⟨id, user⟩

namespace Tracks

variable {history : List Step} {step : Step} {id : Uuid} {after : Memory}

theorem concat (h : Tracks history step.before id) (hnew : ¬ step.Creates id)
    (hstep : ∀ user, step.Follows ⟨id, user⟩ after) : Tracks (history ++ [step]) after id := by
  obtain ⟨earlier, creation, later, rfl, hcreation, hlater, haccounts⟩ := h
  refine ⟨earlier, creation, later ++ [step], by simp, hcreation, ?_, ?_⟩
  · intro other hother
    rcases List.mem_append.1 hother with hother | hother
    · exact hlater other hother
    · rw [List.mem_singleton.1 hother]
      exact hnew
  · intro user
    exact (haccounts user).concat (hstep user)

/-- A new bot has no users, and nothing is known of them. -/
theorem of_creates (hnew : step.Creates id)
    (hnone : ∀ user, after.participants.get? ⟨id, user⟩ = none) :
    Tracks (history ++ [step]) after id := by
  refine ⟨history, step, [], rfl, hnew, by simp, ?_⟩
  intro user
  refine ⟨by simp [hnone], ?_⟩
  intro s _ text
  have htold : after.told ⟨id, user⟩ s = none := by
    rw [Memory.told, Memory.participantAt, hnone]
    rfl
  simp [htold, Latest.not_nil]

end Tracks

namespace Memory

variable {m : Memory} {id other : Uuid}

/-- Saving a changed bot makes no further bot. -/
theorem stored_of_saveBot {bot changed : Bot} (hbot : m.bots.get? other = some bot)
    (h : ((m.saveBot changed).bots.get? id).isSome) (hid : changed.id = bot.id) :
    (m.bots.get? id).isSome := by
  rw [get?_saveBot] at h
  split at h
  · rename_i heq
    have hother : bot.id = other := Table.key_of_get? hbot
    rw [← heq, hid, hother, hbot]
    rfl
  · exact h

theorem stored_of_dropBot (h : ((m.dropBot other).bots.get? id).isSome) :
    (m.bots.get? id).isSome := by
  rw [get?_dropBot] at h
  split at h
  · cases h
  · exact h

end Memory

namespace Engine

variable {π : Type} {publisher : Publisher π} {setting : Setting} {m : Memory} {w : π}
  {c : Command} {r : Except Error Reply} {world : Memory × π}

/-- A bot is made under an identifier that is free. -/
theorem Effect.free_of_creates (h : Effect publisher setting m w c r world) {id : Uuid}
    (hnew : Step.Creates id ⟨m, c, r⟩) : m.bots.get? id = none := by
  obtain ⟨hcommitted, draft, hc, hid⟩ := hnew
  cases hc
  subst hid
  cases h with
  | refused _ e he =>
    rcases hcommitted with ⟨_, heq⟩ | ⟨_, heq⟩
    · cases heq
    · cases heq
      exact he.elim
  | created _ _ _ hfree => exact hfree

/-- A bot that is stored after a command was stored before it, or was made by it. -/
theorem Effect.stored_or_creates (h : Effect publisher setting m w c r world) {id : Uuid}
    (hstored : (world.1.bots.get? id).isSome) :
    (m.bots.get? id).isSome ∨
      (Step.Creates id ⟨m, c, r⟩ ∧ world.1.participants = m.participants) := by
  cases h with
  | refused => exact Or.inl hstored
  | created draft bot hbot hfree =>
    by_cases hid : draft.id = id
    · exact Or.inr ⟨⟨Or.inl ⟨_, rfl⟩, draft, rfl, hid⟩, rfl⟩
    · obtain ⟨_, _, script, _, rfl⟩ := Bot.create_ok_iff.1 hbot
      rw [Memory.get?_saveBot, if_neg hid] at hstored
      exact Or.inl hstored
  | scriptSet other owner entries blocks bot changed hbot howner hchange =>
    obtain ⟨script, _, _, rfl⟩ := Bot.setScript_ok_iff.1 hchange
    exact Or.inl (Memory.stored_of_saveBot hbot hstored rfl)
  | mailingAdded other owner mailing bot changed hbot howner hchange =>
    obtain ⟨_, _, _, rfl⟩ := Bot.addMailing_ok_iff.1 hchange
    exact Or.inl (Memory.stored_of_saveBot hbot hstored rfl)
  | started other owner bot hbot => exact Or.inl (Memory.stored_of_saveBot hbot hstored rfl)
  | startFailed other owner bot reason hbot =>
    exact Or.inl (Memory.stored_of_saveBot hbot hstored rfl)
  | stopped other owner bot hbot => exact Or.inl (Memory.stored_of_saveBot hbot hstored rfl)
  | stopFailed => exact Or.inl hstored
  | deletedIdle => exact Or.inl (Memory.stored_of_dropBot hstored)
  | deletedRunning => exact Or.inl (Memory.stored_of_dropBot hstored)
  | deleteFailed => exact Or.inl hstored
  | entered => exact Or.inl hstored
  | processed => exact Or.inl hstored
  | mailed other owner name bot mailing hbot =>
    rw [(mailing_eq publisher mailing m w (Table.key_of_get? hbot)).1] at hstored
    exact Or.inl hstored
  | resumed => exact Or.inl hstored
  | resumeFailed => exact Or.inl hstored
  | resumedNone => exact Or.inl hstored

theorem Effect.tracks (h : Effect publisher setting m w c r world) (hm : m.Sound)
    {steps : List Step} {id : Uuid} (htracks : (m.bots.get? id).isSome → Tracks steps m id)
    (hstored : (world.1.bots.get? id).isSome) : Tracks (steps ++ [⟨m, c, r⟩]) world.1 id := by
  cases hbot : m.bots.get? id with
  | none =>
    have hnew := (h.stored_or_creates hstored).resolve_left (by simp [hbot])
    refine Tracks.of_creates hnew.1 ?_
    intro user
    rw [hnew.2, Table.get?_eq_none_iff]
    intro p hp heq
    have hkept := hm.kept p hp
    rw [heq, hbot] at hkept
    cases hkept
  | some bot =>
    refine (htracks (by rw [hbot]; rfl)).concat ?_ fun user => h.follows hm hstored
    intro hnew
    rw [h.free_of_creates hnew] at hbot
    cases hbot

/-- Along a run from empty stores every stored bot is tracked. -/
theorem history_tracks (publisher : Publisher π) (w : π) (requests : List Occasion) :
    (carryOutAll publisher ({}, w) requests).1.Sound ∧
      ∀ id, ((carryOutAll publisher ({}, w) requests).1.bots.get? id).isSome →
        Tracks (history publisher ({}, w) requests) (carryOutAll publisher ({}, w) requests).1
          id := by
  induction requests using List.reverseRecOn with
  | nil =>
    refine ⟨Memory.sound_empty, ?_⟩
    intro id h
    cases h
  | append_singleton requests request ih =>
    rw [carryOutAll_concat, history_concat]
    generalize carryOutAll publisher ({}, w) requests = world at ih ⊢
    obtain ⟨m, w'⟩ := world
    obtain ⟨hsound, htracks⟩ := ih
    have heffect := handle_effect publisher request.layout request.setting m w' request.command
    exact ⟨heffect.sound hsound, fun id => heffect.tracks hsound (htracks id)⟩

end Engine

/-- What the cell of a user at a state has to show: the last answer that was not forgotten. -/
def Shows (later : List Step) (address : Address) (s : State) (cell : String) : Prop :=
  Latest (Step.Tells address s) (Step.Voids address s) later cell ∨
    (cell = "" ∧ ∀ text, ¬ Latest (Step.Tells address s) (Step.Voids address s) later text)

/-- A table that tells what happened since a bot was made: a row for each user who was there, by
ascending user, with a cell for each block that waits in the script as it is now. -/
structure Reports (later : List Step) (bot : Bot) (table : AnswersTable) : Prop where
  head : table.head = AnswersTable.userColumn :: bot.script.questions.map Block.title
  body : ∃ users : List UserId, users.Pairwise (· < ·) ∧
    (∀ user, user ∈ users ↔ ∃ step ∈ later, step.Visits ⟨bot.id, user⟩) ∧
    List.Forall₂ (fun user row => ∃ cells, row = toString user :: cells ∧
      List.Forall₂ (fun b cell => Shows later ⟨bot.id, user⟩ b.state cell)
        bot.script.questions cells) users table.body

theorem Accounts.shows {later : List Step} {m : Memory} {address : Address} {p : Participant}
    (h : Accounts later m address) (hp : m.participants.get? address = some p) {b : Block}
    (hb : b.state ≠ finished) : Shows later address b.state (AnswersTable.cell p b) := by
  have htold := h.told b.state hb
  rw [Memory.told_of_get? hp] at htold
  unfold AnswersTable.cell
  cases ha : p.answerAt? b.state with
  | none =>
    refine Or.inr ⟨rfl, ?_⟩
    intro text hlatest
    have hsome := (htold text).2 hlatest
    rw [ha] at hsome
    cases hsome
  | some a =>
    refine Or.inl ((htold a.text).1 ?_)
    rw [ha]
    rfl

theorem Script.Accepted.question_ne_finished {script : Script} (h : script.Accepted) {b : Block}
    (hb : b ∈ script.questions) : b.state ≠ finished :=
  h.block_ne_finished (Table.get?_key_of_mem (List.mem_filter.1 hb).1)

/-- The table that is built from the stored participants tells the steps that account for
them. -/
theorem Memory.Sound.reports {m : Memory} (hm : m.Sound) {bot : Bot} {later : List Step}
    (hbot : m.bots.get? bot.id = some bot) (h : ∀ user, Accounts later m ⟨bot.id, user⟩) :
    Reports later bot
      (.build bot.script (m.participants.rows.filter fun p => p.address.bot = bot.id)) where
  head := rfl
  body := by
    have hascending := m.listed_ascending bot.id
    have husers : ((m.participants.rows.filter fun p => p.address.bot = bot.id).map
        fun p => p.address.user).Pairwise (· < ·) := by
      rw [List.pairwise_map]
      exact hascending
    have hlisted : ∀ p ∈ m.participants.rows.filter fun p => p.address.bot = bot.id,
        m.participants.get? ⟨bot.id, p.address.user⟩ = some p := by
      intro p hp
      simp only [List.mem_filter, decide_eq_true_eq] at hp
      rw [← hp.2]
      exact Table.get?_key_of_mem hp.1
    have hsorted : (m.participants.rows.filter fun p => p.address.bot = bot.id).mergeSort
        (fun a b => a.address.user ≤ b.address.user) =
          m.participants.rows.filter fun p => p.address.bot = bot.id :=
      List.mergeSort_of_pairwise (hascending.imp fun hlt => by simpa using Int64.le_of_lt hlt)
    refine ⟨_, husers, ?_, ?_⟩
    · intro user
      rw [← (h user).listed, Option.isSome_iff_exists, List.mem_map]
      constructor
      · intro huser
        obtain ⟨p, hp, rfl⟩ := huser
        exact ⟨p, hlisted p hp⟩
      · intro huser
        obtain ⟨p, hp⟩ := huser
        obtain ⟨hmem, haddress⟩ := Table.get?_eq_some_iff.1 hp
        exact ⟨p, List.mem_filter.2 ⟨hmem, by simp [haddress]⟩, by rw [haddress]⟩
    · rw [AnswersTable.build, hsorted, List.forall₂_map_left_iff, List.forall₂_map_right_iff,
        List.forall₂_same]
      intro p hp
      refine ⟨_, rfl, ?_⟩
      rw [List.forall₂_map_right_iff, List.forall₂_same]
      intro b hb
      exact (h p.address.user).shows (hlisted p hp)
        ((hm.accepted_of_get? hbot).question_ne_finished hb)

namespace Engine

open ScriptedChat.Action

variable {π : Type} {layout : Memory.Layout}

/-- At the end of every run from empty stores, whatever the publisher does, the owner of a bot
is shown what happened since the bot was made. -/
theorem answers_tell_history (publisher : Publisher π) (w : π)
    (requests : List Occasion) {id : Uuid} {bot : Bot}
    (hbot : (carryOutAll publisher ({}, w) requests).1.bots.get? id = some bot) :
    ∃ earlier creation later table,
      history publisher ({}, w) requests = earlier ++ creation :: later ∧
      creation.Creates id ∧ (∀ step ∈ later, ¬ step.Creates id) ∧
      exec ((inMemory publisher layout).ask (.answers id bot.owner))
          (carryOutAll publisher ({}, w) requests) =
        (.ok (.answers table), carryOutAll publisher ({}, w) requests) ∧
      Reports later bot table := by
  obtain ⟨hsound, htracks⟩ := history_tracks publisher w requests
  obtain ⟨earlier, creation, later, hhistory, hcreation, hlater, haccounts⟩ :=
    htracks id (by rw [hbot]; rfl)
  have hid : bot.id = id := Table.key_of_get? hbot
  subst hid
  generalize carryOutAll publisher ({}, w) requests = world at *
  obtain ⟨m, w'⟩ := world
  refine ⟨earlier, creation, later, _, hhistory, hcreation, hlater, ?_,
    hsound.reports hbot haccounts⟩
  have hlist : exec ((inMemory publisher layout).stores.participantsOfBot bot.id) (m, w') =
      (.ok (m.participants.rows.filter fun p => p.address.bot = bot.id), (m, w')) := rfl
  simp only [ask, answers, exec_bind, exec_ownedBot publisher w' hbot, hlist, exec_pure]

/-- A publish fails while one user answers, another user starts over, and the bot was made anew
before that. -/
theorem answers_tell_outage :
    let id : Uuid := ⟨1⟩
    let draft : BotDraft := ⟨id, 5, "Shop", "token", [⟨"start", 1⟩],
      [⟨1, 2, "Name", "Who are you?", .question⟩, ⟨2, 1, "Age", "How old are you?", .question⟩]⟩
    let requests : List Occasion := [.createBot draft, .enter ⟨id, 7⟩ "start",
      .deleteBot id 5, .createBot draft, .enter ⟨id, 9⟩ "start", .process ⟨id, 9⟩ "Eve",
      .enter ⟨id, 7⟩ "start", .process ⟨id, 7⟩ "Ann", .process ⟨id, 7⟩ "41",
      .process ⟨id, 7⟩ "Anna", .enter ⟨id, 9⟩ "start"].map fun c => ⟨.flat, ⟨⟨0⟩, .permissive⟩, c⟩
    let bus : Recorder := { failing := [4] }
    ∃ bot, (carryOutAll Recorder.publish ({}, bus) requests).1.bots.get? id = some bot ∧
      ∃ earlier creation later table,
        history Recorder.publish ({}, bus) requests = earlier ++ creation :: later ∧
        creation.Creates id ∧ (∀ step ∈ later, ¬ step.Creates id) ∧
        exec ((inMemory Recorder.publish .flat).ask (.answers id bot.owner))
            (carryOutAll Recorder.publish ({}, bus) requests) =
          (.ok (.answers table), carryOutAll Recorder.publish ({}, bus) requests) ∧
        Reports later bot table := by
  intro id draft requests bus
  have hstored :
      ((carryOutAll Recorder.publish ({}, bus) requests).1.bots.get? id).isSome = true := by
    decide +kernel
  obtain ⟨bot, hbot⟩ := Option.isSome_iff_exists.1 hstored
  exact ⟨bot, hbot, answers_tell_history Recorder.publish bus requests hbot⟩

end Engine

end ScriptedChat
