import ScriptedChat.Proofs.Actions

/-!
Computations on two kinds of states that agree. States are tied by a relation; computations
agree when from tied states they give the same outcome and leave tied states, also where they
fail. Agreement goes through every way in which larger computations are put together.
-/
namespace ScriptedChat

open ScriptedChat.Action

/-- The same outcome from tied states, which stay tied. -/
def Agrees {ε σ τ α : Type} (tied : σ → τ → Prop) (x : ExceptT ε (StateM σ) α)
    (y : ExceptT ε (StateM τ) α) : Prop :=
  ∀ s t, tied s t → (exec x s).1 = (exec y t).1 ∧ tied (exec x s).2 (exec y t).2

namespace Agrees

variable {ε σ τ α β : Type} {tied : σ → τ → Prop}

theorem pure (a : α) :
    Agrees tied (Pure.pure a : ExceptT ε (StateM σ) α) (Pure.pure a) := by
  intro s t h
  exact ⟨rfl, h⟩

theorem throw (e : ε) :
    Agrees tied (MonadExcept.throw e : ExceptT ε (StateM σ) α) (MonadExcept.throw e) := by
  intro s t h
  exact ⟨rfl, h⟩

theorem lift (x : Except ε α) :
    Agrees tied (liftM x : ExceptT ε (StateM σ) α) (liftM x) := by
  intro s t h
  rw [exec_lift, exec_lift]
  exact ⟨rfl, h⟩

theorem bind {x : ExceptT ε (StateM σ) α} {y : ExceptT ε (StateM τ) α}
    {f : α → ExceptT ε (StateM σ) β} {g : α → ExceptT ε (StateM τ) β} (hx : Agrees tied x y)
    (hf : ∀ a, Agrees tied (f a) (g a)) : Agrees tied (x >>= f) (y >>= g) := by
  intro s t h
  obtain ⟨hsame, htied⟩ := hx s t h
  rw [exec_bind, exec_bind]
  cases hs : exec x s with
  | mk r s' =>
    cases ht : exec y t with
    | mk r' t' =>
      rw [hs, ht] at hsame htied
      cases hsame
      cases r with
      | error e => exact ⟨rfl, htied⟩
      | ok a => exact hf a s' t' htied

/-- What follows on an outcome that is known may rely on it. -/
theorem bind_lift {x : Except ε α} {f : α → ExceptT ε (StateM σ) β}
    {g : α → ExceptT ε (StateM τ) β} (hf : ∀ a, x = .ok a → Agrees tied (f a) (g a)) :
    Agrees tied (liftM x >>= f) (liftM x >>= g) := by
  intro s t h
  rw [exec_bind, exec_bind, exec_lift, exec_lift]
  cases x with
  | error e => exact ⟨rfl, h⟩
  | ok a => exact hf a rfl s t h

theorem tryCatch {x : ExceptT ε (StateM σ) α} {y : ExceptT ε (StateM τ) α}
    {f : ε → ExceptT ε (StateM σ) α} {g : ε → ExceptT ε (StateM τ) α} (hx : Agrees tied x y)
    (hf : ∀ e, Agrees tied (f e) (g e)) :
    Agrees tied (MonadExcept.tryCatch x f) (MonadExcept.tryCatch y g) := by
  intro s t h
  obtain ⟨hsame, htied⟩ := hx s t h
  rw [exec_tryCatch, exec_tryCatch]
  cases hs : exec x s with
  | mk r s' =>
    cases ht : exec y t with
    | mk r' t' =>
      rw [hs, ht] at hsame htied
      cases hsame
      cases r with
      | error e => exact hf e s' t' htied
      | ok a => exact ⟨rfl, htied⟩

theorem ite {c : Prop} [Decidable c] {x x' : ExceptT ε (StateM σ) α}
    {y y' : ExceptT ε (StateM τ) α} (hx : Agrees tied x y) (hx' : Agrees tied x' y') :
    Agrees tied (if c then x else x') (if c then y else y') := by
  split
  · exact hx
  · exact hx'

theorem foldlM {f : β → α → ExceptT ε (StateM σ) β} {g : β → α → ExceptT ε (StateM τ) β}
    (hf : ∀ b a, Agrees tied (f b a) (g b a)) (l : List α) (b : β) :
    Agrees tied (l.foldlM f b) (l.foldlM g b) := by
  induction l generalizing b with
  | nil => exact pure b
  | cons a rest ih =>
    rw [List.foldlM_cons, List.foldlM_cons]
    exact (hf b a).bind ih

end Agrees

end ScriptedChat
