import ScriptedChat.Bot
import ScriptedChat.Proofs.Conversation.Steps
import ScriptedChat.Proofs.Script.WellFormed

/-!
What is refused without the publisher. Checks of scripts, bots and mailings and steps of
conversations fail for reasons of their own: none of their errors is the error of a publish.
-/
namespace ScriptedChat

/-- Errors that are not about publishing. -/
def Refusal : Error → Prop
  | .publish _ => False
  | _ => True

/-- Computations whose errors are not about publishing. -/
def Refuses {α : Type} (x : Except Error α) : Prop := ∀ e, x = .error e → Refusal e

namespace Refuses

variable {α β : Type}

theorem ok (a : α) : Refuses (.ok a : Except Error α) := by
  intro e h
  cases h

theorem error {e : Error} (h : Refusal e) : Refuses (.error e : Except Error α) := by
  intro e' heq
  cases heq
  exact h

theorem bind {x : Except Error α} {f : α → Except Error β} (hx : Refuses x)
    (hf : ∀ a, Refuses (f a)) : Refuses (x >>= f) := by
  intro e h
  rcases Outcome.bind_error_iff.1 h with h | ⟨a, _, h⟩
  · exact hx e h
  · exact hf a e h

theorem map {x : Except Error α} {f : α → β} (hx : Refuses x) : Refuses (x.map f) := by
  cases x with
  | error e => exact error (hx e rfl)
  | ok a => exact ok (f a)

theorem ite {c : Prop} [Decidable c] {x y : Except Error α} (hx : Refuses x) (hy : Refuses y) :
    Refuses (if c then x else y) := by
  split
  · exact hx
  · exact hy

theorem foldlM {f : β → α → Except Error β} (hf : ∀ b a, Refuses (f b a)) (l : List α) (b : β) :
    Refuses (l.foldlM f b) := by
  induction l generalizing b with
  | nil => exact ok b
  | cons a rest ih =>
    rw [List.foldlM_cons]
    exact bind (hf b a) ih

theorem forM {f : α → Except Error PUnit} (hf : ∀ a, Refuses (f a)) (l : List α) :
    Refuses (l.forM f) := by
  induction l with
  | nil => exact ok PUnit.unit
  | cons a rest ih => exact bind (hf a) fun _ => ih

end Refuses

theorem Block.check_refuses (b : Block) : Refuses b.check := by
  unfold Block.check
  refine Refuses.ite (Refuses.error trivial) ?_
  split
  · exact Refuses.ite (Refuses.error trivial) (Refuses.ite (Refuses.error trivial) (Refuses.ok ()))
  · exact Refuses.ite (Refuses.error trivial) (Refuses.ite (Refuses.error trivial) (Refuses.ok ()))
  · exact Refuses.ite (Refuses.error trivial) (Refuses.ite (Refuses.error trivial) (Refuses.ok ()))

namespace Script

theorem addBlock_refuses (blocks : Blocks) (b : Block) : Refuses (addBlock blocks b) := by
  exact Refuses.bind b.check_refuses fun _ => Refuses.ite (Refuses.error trivial) (Refuses.ok _)

theorem addEntry_refuses (entries : EntryPoints) (e : EntryPoint) :
    Refuses (addEntry entries e) := by
  unfold addEntry
  exact Refuses.ite (Refuses.error trivial) (Refuses.ite (Refuses.error trivial)
    (Refuses.ite (Refuses.error trivial) (Refuses.ok _)))

theorem checkGraph_refuses (blocks : Blocks) (entries : EntryPoints) (cycles : CyclePolicy) :
    Refuses (blocks.checkGraph entries cycles) := by
  rw [Blocks.checkGraph_eq]
  refine Refuses.bind ?_ fun p => ?_
  · intro e h
    obtain ⟨t, _, hfault⟩ := Painter.atRest_start.paintEntries_error h
    cases hfault <;> trivial
  · split
    · exact Refuses.error trivial
    · exact Refuses.ok ()

theorem build_refuses (entries : List EntryPoint) (blocks : List Block) (cycles : CyclePolicy) :
    Refuses (build entries blocks cycles) := by
  refine Refuses.bind (Refuses.foldlM addBlock_refuses blocks _) fun bs => ?_
  split
  · exact Refuses.error trivial
  · refine Refuses.bind (Refuses.foldlM addEntry_refuses entries _) fun es => ?_
    exact Refuses.bind (checkGraph_refuses bs es cycles) fun _ => Refuses.ok _

theorem landFrom_refuses (script : Script) (seen : List State) (s : State) :
    Refuses (script.landFrom seen s) := by
  induction seen, s using landFrom.induct script with
  | case1 seen s hnone =>
    rw [landFrom_of_none hnone]
    exact Refuses.ok _
  | case2 seen s b hb hmessage hagain =>
    rw [landFrom_of_message hb hmessage, if_pos hagain]
    exact Refuses.error trivial
  | case3 seen s b hb hmessage hfresh ih =>
    rw [landFrom_of_message hb hmessage, if_neg hfresh]
    exact Refuses.map ih
  | case4 seen s b hb hwaits =>
    rw [landFrom_of_waits hb (by simpa using hwaits)]
    exact Refuses.ok _

theorem reachableFrom_refuses (blocks : Blocks) (root : State) :
    Refuses (blocks.reachableFrom root) := by
  intro e h
  obtain ⟨_, s, _, _, rfl⟩ := Blocks.reachableFrom_error h
  trivial

end Script

namespace Participant

theorem enter_refuses (p : Participant) (script : Script) (key : String) :
    Refuses (p.enter script key) := by
  unfold enter
  split
  · exact Refuses.error trivial
  · rename_i e _
    refine Refuses.bind (Script.reachableFrom_refuses script.blocks e.state) fun reached => ?_
    exact Refuses.bind (Script.landFrom_refuses script [] e.state) fun _ => Refuses.ok _

theorem process_refuses (p : Participant) (script : Script) (input : String) :
    Refuses (p.process script input) := by
  by_cases hfin : p.state = finished
  · rw [process_of_finished hfin]
    exact Refuses.ok _
  · cases hb : script.block? p.state with
    | none =>
      rw [process_of_none hfin hb]
      exact Refuses.error trivial
    | some b =>
      rw [process_of_block hfin hb]
      refine Refuses.ite (Refuses.error trivial) ?_
      exact Refuses.map (Script.landFrom_refuses script [] _)

theorem reply_refuses (p : Participant) (script : Script) (input : String) :
    Refuses (p.reply script input) :=
  Refuses.bind (p.process_refuses script input) fun _ => Refuses.ok _

end Participant

namespace Bot

theorem checkTargets_refuses (script : Script) (mailing : Mailing) :
    Refuses (checkTargets script mailing) := by
  unfold checkTargets
  exact Refuses.ite (Refuses.error trivial) (Refuses.ite (Refuses.error trivial) (Refuses.ok _))

theorem create_refuses (draft : BotDraft) (cycles : CyclePolicy) (now : Time) :
    Refuses (create draft cycles now) := by
  simp only [create, Outcome.throw_eq, Outcome.error_bind]
  refine Refuses.ite (Refuses.error trivial) (Refuses.ite (Refuses.error trivial) ?_)
  exact Refuses.bind (Script.build_refuses _ _ _) fun _ => Refuses.ok _

theorem setScript_refuses (bot : Bot) (entries : List EntryPoint) (blocks : List Block)
    (cycles : CyclePolicy) (now : Time) :
    Refuses (bot.setScript entries blocks cycles now) := by
  refine Refuses.bind (Script.build_refuses _ _ _) fun script => ?_
  exact Refuses.bind (Refuses.forM (checkTargets_refuses script) _) fun _ => Refuses.ok _

theorem addMailing_refuses (bot : Bot) (mailing : Mailing) (now : Time) :
    Refuses (bot.addMailing mailing now) := by
  simp only [addMailing, Outcome.throw_eq, Outcome.error_bind]
  refine Refuses.ite (Refuses.error trivial) (Refuses.ite (Refuses.error trivial) ?_)
  exact Refuses.bind (checkTargets_refuses _ _) fun _ => Refuses.ok _

end Bot

end ScriptedChat
