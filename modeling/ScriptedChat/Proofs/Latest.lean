import Mathlib.Data.List.Induction

/-!
The last word in a history. Some entries of a history tell something, and some entries make
earlier ones void; what was told last and not made void since is what still holds. A history
that goes on by one entry changes this in the obvious way, so that facts about the last word
are proved by induction along the history.
-/
namespace ScriptedChat

variable {σ α : Type}

/-- An entry that tells `a`, with no entry behind it that makes it void. -/
def Latest (tells : σ → α → Prop) (voids : σ → Prop) (history : List σ) (a : α) : Prop :=
  ∃ earlier x later, history = earlier ++ x :: later ∧ tells x a ∧ ∀ y ∈ later, ¬ voids y

namespace Latest

variable {tells : σ → α → Prop} {voids : σ → Prop} {history : List σ} {a : α}

theorem not_nil : ¬ Latest tells voids [] a := by
  rintro ⟨earlier, x, later, heq, _⟩
  simp at heq

theorem concat_iff {x : σ} :
    Latest tells voids (history ++ [x]) a ↔
      tells x a ∨ (¬ voids x ∧ Latest tells voids history a) := by
  constructor
  · rintro ⟨earlier, y, later, heq, hy, hlater⟩
    rcases List.eq_nil_or_concat later with rfl | ⟨later, z, rfl⟩
    · obtain ⟨_, hxy⟩ := List.append_inj' heq rfl
      cases hxy
      exact Or.inl hy
    · rw [List.concat_eq_append, ← List.cons_append, ← List.append_assoc] at heq
      obtain ⟨hhistory, hxz⟩ := List.append_inj' heq rfl
      cases hxz
      refine Or.inr ⟨hlater x (by simp), earlier, y, later, hhistory, hy, ?_⟩
      intro w hw
      exact hlater w (by simp [hw])
  · rintro (hx | ⟨hvoid, earlier, y, later, rfl, hy, hlater⟩)
    · exact ⟨history, x, [], rfl, hx, by simp⟩
    · refine ⟨earlier, y, later ++ [x], by simp, hy, ?_⟩
      intro w hw
      rcases List.mem_append.1 hw with hw | hw
      · exact hlater w hw
      · rw [List.mem_singleton.1 hw]
        exact hvoid

/-- Where only what tells something makes earlier words void, there is a last word once anything
was told. -/
theorem exists_iff (hvoids : ∀ x, voids x ↔ ∃ a, tells x a) :
    (∃ a, Latest tells voids history a) ↔ ∃ x ∈ history, voids x := by
  induction history using List.reverseRecOn with
  | nil => simp [not_nil]
  | append_singleton history x ih =>
    simp only [concat_iff, exists_or, exists_and_left, ih, ← hvoids x, List.mem_append,
      List.mem_singleton, or_and_right, exists_eq_left]
    by_cases hx : voids x <;> simp [hx]

end Latest

end ScriptedChat
