import ScriptedChat.Engine.Basic
import ScriptedChat.Proofs.Outcome

/-!
Runs of actions. A run takes the state before an action to its outcome and the state after it.
Of two actions in a row the second is run on what the first left, unless that failed; what is
caught is run on what the failed action left. An action on a part of a state changes that part
only. All of it holds for errors of any kind, so that statements are run in the same way.
-/
namespace ScriptedChat

/-- The outcome of a computation on a state and the state that it leaves. -/
def Action.exec {ε σ α : Type} (m : ExceptT ε (StateM σ) α) (s : σ) : Except ε α × σ :=
  m.run.run s

namespace Action

variable {ε ε' σ τ α β : Type}

@[simp]
theorem exec_pure (a : α) (s : σ) : exec (pure a : ExceptT ε (StateM σ) α) s = (.ok a, s) := rfl

@[simp]
theorem exec_throw (e : ε) (s : σ) :
    exec (throw e : ExceptT ε (StateM σ) α) s = (.error e, s) := rfl

/-- A result that is returned from within a block of its own. -/
@[simp]
theorem exec_return {ρ : Type} (r : ρ) (s : σ) :
    exec (EarlyReturnT.return r : EarlyReturnT ρ (ExceptT ε (StateM σ)) α) s =
      (.ok (.error r), s) := rfl

@[simp]
theorem exec_get (s : σ) : exec (get : ExceptT ε (StateM σ) σ) s = (.ok s, s) := rfl

@[simp]
theorem exec_set (s s' : σ) :
    exec (set s' : ExceptT ε (StateM σ) PUnit) s = (.ok ⟨⟩, s') := rfl

@[simp]
theorem exec_modify (f : σ → σ) (s : σ) :
    exec (modify f : ExceptT ε (StateM σ) PUnit) s = (.ok ⟨⟩, f s) := rfl

@[simp]
theorem exec_lift (x : Except ε α) (s : σ) :
    exec (liftM x : ExceptT ε (StateM σ) α) s = (x, s) := by
  cases x <;> rfl

theorem exec_bind (m : ExceptT ε (StateM σ) α) (f : α → ExceptT ε (StateM σ) β) (s : σ) :
    exec (m >>= f) s =
      match exec m s with
      | (.ok a, s') => exec (f a) s'
      | (.error e, s') => (.error e, s') := by
  unfold exec ExceptT.run StateT.run
  simp only [bind, ExceptT.bind, ExceptT.mk, StateT.bind, ExceptT.bindCont]
  cases m s with
  | mk r s' => cases r <;> rfl

/-- Nothing follows on what failed. -/
theorem exec_bind_error {m : ExceptT ε (StateM σ) α} {s s' : σ} {e : ε}
    (h : exec m s = (.error e, s')) (f : α → ExceptT ε (StateM σ) β) :
    exec (m >>= f) s = (.error e, s') := by
  rw [exec_bind, h]

/-- What succeeds has succeeded in both parts. -/
theorem exec_bind_ok {m : ExceptT ε (StateM σ) α} {f : α → ExceptT ε (StateM σ) β} {s s' : σ}
    {b : β} (h : exec (m >>= f) s = (.ok b, s')) :
    ∃ a between, exec m s = (.ok a, between) ∧ exec (f a) between = (.ok b, s') := by
  rw [exec_bind] at h
  cases hm : exec m s with
  | mk r between =>
    rw [hm] at h
    cases r with
    | error e => cases h
    | ok a => exact ⟨a, between, rfl, h⟩

theorem exec_map (f : α → β) (m : ExceptT ε (StateM σ) α) (s : σ) :
    exec (f <$> m) s = ((exec m s).1.map f, (exec m s).2) := by
  rw [map_eq_pure_bind, exec_bind]
  cases exec m s with
  | mk r s' => cases r <;> rfl

/-- Items that are worked on one by one without changing the state. -/
theorem exec_mapM {f : α → ExceptT ε (StateM σ) β} {g : α → β} {l : List α} {s : σ}
    (h : ∀ a ∈ l, exec (f a) s = (.ok (g a), s)) : exec (l.mapM f) s = (.ok (l.map g), s) := by
  induction l with
  | nil => rfl
  | cons a rest ih =>
    have hrest := ih fun b hb => h b (List.mem_cons_of_mem _ hb)
    simp only [List.mapM_cons, exec_bind, h a List.mem_cons_self, hrest, exec_pure,
      List.map_cons]

/-- Items that are checked one by one, none of which changes the state. -/
theorem exec_forM_lift (f : α → Except ε Unit) (l : List α) (s : σ) :
    exec (l.forM fun a => (liftM (f a) : ExceptT ε (StateM σ) Unit)) s = (l.forM f, s) := by
  induction l with
  | nil => rfl
  | cons a rest ih =>
    rw [List.forM_eq_forM, List.forM_eq_forM] at ih ⊢
    rw [List.forM_cons, List.forM_cons, exec_bind, exec_lift]
    cases f a with
    | error e => rfl
    | ok _ => exact ih

theorem exec_tryCatch (m : ExceptT ε (StateM σ) α) (f : ε → ExceptT ε (StateM σ) α) (s : σ) :
    exec (tryCatch m f) s =
      match exec m s with
      | (.ok a, s') => (.ok a, s')
      | (.error e, s') => exec (f e) s' := by
  unfold exec ExceptT.run StateT.run
  simp only [tryCatch, tryCatchThe, MonadExceptOf.tryCatch, ExceptT.tryCatch, ExceptT.mk, bind,
    StateT.bind]
  cases m s with
  | mk r s' => cases r <;> rfl

theorem exec_adapt (f : ε → ε') (m : ExceptT ε (StateM σ) α) (s : σ) :
    exec (ExceptT.adapt f m) s = ((exec m s).1.mapError f, (exec m s).2) := rfl

@[simp]
theorem exec_act (part : Part τ σ) (m : Action σ α) (t : τ) :
    exec (part.act m) t = ((exec m (part.get t)).1, part.set t (exec m (part.get t)).2) := rfl

/-- Whether an action keeps what holds of the state, also where it fails. -/
def Preserves (P : σ → Prop) (m : ExceptT ε (StateM σ) α) : Prop := ∀ s, P s → P (exec m s).2

namespace Preserves

variable {P : σ → Prop} {m : ExceptT ε (StateM σ) α} {f : α → ExceptT ε (StateM σ) β}

theorem pure (a : α) : Preserves P (Pure.pure a : ExceptT ε (StateM σ) α) := fun _ h => h

theorem throw (e : ε) : Preserves P (MonadExcept.throw e : ExceptT ε (StateM σ) α) := fun _ h => h

theorem lift (x : Except ε α) : Preserves P (liftM x : ExceptT ε (StateM σ) α) := by
  intro s h
  rw [exec_lift]
  exact h

theorem bind (hm : Preserves P m) (hf : ∀ a, Preserves P (f a)) : Preserves P (m >>= f) := by
  intro s h
  have hs := hm s h
  rw [exec_bind]
  cases hrun : exec m s with
  | mk r s' =>
    rw [hrun] at hs
    cases r with
    | error e => exact hs
    | ok a => exact hf a s' hs

theorem adapt (g : ε → ε') (hm : Preserves P m) : Preserves P (ExceptT.adapt g m) :=
  fun s h => hm s h

theorem forM {l : List α} {g : α → ExceptT ε (StateM σ) Unit} (hg : ∀ a, Preserves P (g a)) :
    Preserves P (l.forM g) := by
  induction l with
  | nil => exact pure ()
  | cons a rest ih => exact bind (hg a) fun _ => ih

end Preserves

end Action

end ScriptedChat
