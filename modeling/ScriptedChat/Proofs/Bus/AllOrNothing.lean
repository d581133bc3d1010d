import ScriptedChat.Bus.Publisher

/-!
Publishers that take a batch whole or not at all. What such a publisher took so far can be read
off its state: a batch that it accepts comes behind, and a batch that it refuses leaves no trace.
The recorder is such a publisher.
-/
namespace ScriptedChat

namespace Publisher

/-- Whether a publisher takes a batch whole or fails and takes nothing, where the envelopes that
it took are told by a function of its state. -/
structure AllOrNothing {π : Type} (publisher : Publisher π) (taken : π → List Envelope) :
    Prop where
  accepts : ∀ batch w, ((publisher batch).run w).1 = .ok () →
    taken ((publisher batch).run w).2 = taken w ++ batch
  refuses : ∀ batch w e, ((publisher batch).run w).1 = .error e →
    taken ((publisher batch).run w).2 = taken w

/-- A publisher that takes every batch and keeps none. -/
def accepting : Publisher Unit := fun _ => return .ok ()

end Publisher

theorem Recorder.run_publish (r : Recorder) (batch : List Envelope) :
    (Recorder.publish batch).run r =
      if r.down || r.failing.contains 0 then
        (.error .closed, { r with failing := r.failing.map (· - 1) })
      else
        (.ok (), { r with failing := r.failing.map (· - 1), taken := r.taken ++ [batch] }) := by
  unfold publish
  simp only [StateT.run_bind, StateT.run_get, pure_bind]
  split
  · rfl
  · rfl

theorem Recorder.allOrNothing :
    Publisher.AllOrNothing Recorder.publish fun r => r.taken.flatten where
  accepts batch r h := by
    rw [run_publish] at h ⊢
    split at h
    · cases h
    · rename_i hopen
      rw [if_neg hopen]
      simp
  refuses batch r e h := by
    rw [run_publish] at h ⊢
    split at h
    · rename_i hrefused
      rw [if_pos hrefused]
    · cases h

end ScriptedChat
