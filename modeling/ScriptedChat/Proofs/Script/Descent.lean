import Mathlib.Data.List.Perm.Subperm
import ScriptedChat.Proofs.Script.WellFormed

/-!
Scripts without cycles. A state of a script is its end or one of its blocks. How far it is from
the end is measured by the number of blocks that it reaches, itself among them: without cycles a
block no longer reaches itself from where it leads, so every edge lowers the number, and only the
end reaches none.
-/
namespace ScriptedChat

theorem Blocks.reachableFrom_nodup {blocks : Blocks} {root : State} {reached : List State}
    (h : blocks.reachableFrom root = .ok reached) : reached.Nodup := by
  obtain ⟨p, _, rfl⟩ := Outcome.map_ok_iff.1 h
  exact p.marks.keys_nodup

namespace Script

open Relation ScriptedChat.Graph

variable {script : Script} {cycles : CyclePolicy} {s t : State} {b : Block}

/-- Whether a state is the end of a script or one of its blocks. -/
def HasState (script : Script) (s : State) : Prop :=
  s = finished ∨ (script.block? s).isSome

theorem hasState_of_block (h : script.block? s = some b) : script.HasState s := by
  apply Or.inr
  rw [h]
  rfl

theorem hasState_of_mem (h : b ∈ script.blocks.rows) : script.HasState b.state :=
  hasState_of_block (Table.get?_key_of_mem h)

namespace WellFormed

section
variable (h : WellFormed script.entries.rows script.blocks.rows cycles)
include h

theorem block_ne_finished (hb : script.block? s = some b) : s ≠ finished := by
  obtain ⟨hmem, rfl⟩ := Table.get?_eq_some_iff.1 hb
  exact (h.complete b hmem).1

/-- A block leads to states of the script only. -/
theorem hasState_target (hb : script.block? s = some b) (ht : t ∈ b.targets) :
    script.HasState t := by
  have hmem := Table.mem_of_get? hb
  rcases h.edges_land b hmem t (Block.mem_targets.1 ht) with hfin | ⟨c, hc, rfl⟩
  · exact Or.inl hfin
  · exact hasState_of_mem hc

theorem hasState_entry {key : String} {e : EntryPoint} (he : script.entry? key = some e) :
    script.HasState e.state := by
  obtain ⟨b, hb, hstate⟩ := h.entries_land e (Table.mem_of_get? he)
  rw [← hstate]
  exact hasState_of_mem hb

/-- What a state of the script reaches can be listed. -/
theorem exists_reachableFrom (hs : script.HasState s) :
    ∃ reached, script.blocks.reachableFrom s = .ok reached := by
  cases hreached : script.blocks.reachableFrom s with
  | ok reached => exact ⟨reached, rfl⟩
  | error e =>
    obtain ⟨hne, t, hpath, hnone, _⟩ := Blocks.reachableFrom_error hreached
    have hclosed : ∀ u v, (script.block? u).isSome → Edge script.blocks.rows u v →
        (script.block? v).isSome := by
      intro u v _ huv
      obtain ⟨c, hc, hv⟩ := exists_block_of_edge huv
      exact (h.hasState_target hc hv).resolve_left huv.1
    have hsome := Reaches.preserve hclosed hpath (hs.resolve_left hne)
    rw [block?, hnone] at hsome
    cases hsome

end

end WellFormed

/-- The number of blocks that a state reaches, itself among them. -/
def ahead (script : Script) (s : State) : Nat :=
  match script.blocks.reachableFrom s with
  | .ok reached => reached.length
  | .error _ => 0

theorem ahead_of_ok {reached : List State} (h : script.blocks.reachableFrom s = .ok reached) :
    script.ahead s = reached.length := by
  rw [ahead, h]

theorem ahead_finished (script : Script) : script.ahead finished = 0 := by
  cases hreached : script.blocks.reachableFrom finished with
  | error e => rw [ahead, hreached]
  | ok reached =>
    rw [ahead_of_ok hreached, List.length_eq_zero_iff]
    apply List.eq_nil_iff_forall_not_mem.2
    intro s hs
    exact (((Blocks.reachableFrom_ok hreached).1 s).1 hs).1 rfl

/-- No state reaches more blocks than there are. -/
theorem ahead_le_length (script : Script) (s : State) :
    script.ahead s ≤ script.blocks.rows.length := by
  cases hreached : script.blocks.reachableFrom s with
  | error e =>
    rw [ahead, hreached]
    exact Nat.zero_le _
  | ok reached =>
    have hsub : reached ⊆ script.blocks.keys := by
      intro t ht
      exact Table.mem_keys_iff.2 ((Blocks.reachableFrom_ok hreached).2 t ht).2
    rw [ahead_of_ok hreached, ← List.length_map Block.state]
    exact ((Blocks.reachableFrom_nodup hreached).subperm hsub).length_le

namespace WellFormed

theorem ahead_pos (h : WellFormed script.entries.rows script.blocks.rows cycles)
    (hs : script.HasState s) (hne : s ≠ finished) : 0 < script.ahead s := by
  obtain ⟨reached, hreached⟩ := h.exists_reachableFrom hs
  rw [ahead_of_ok hreached]
  exact List.length_pos_of_mem
    (((Blocks.reachableFrom_ok hreached).1 s).2 ⟨hne, ReflTransGen.refl⟩)

/-- Without cycles, a block reaches more than what it leads to. -/
theorem ahead_lt (h : WellFormed script.entries.rows script.blocks.rows .reject)
    (hb : script.block? s = some b) (ht : t ∈ b.targets) : script.ahead t < script.ahead s := by
  have hs := h.block_ne_finished hb
  by_cases hfin : t = finished
  · rw [hfin, ahead_finished]
    exact h.ahead_pos (hasState_of_block hb) hs
  · obtain ⟨fromS, hfromS⟩ := h.exists_reachableFrom (hasState_of_block hb)
    obtain ⟨fromT, hfromT⟩ := h.exists_reachableFrom (h.hasState_target hb ht)
    have hmemS := (Blocks.reachableFrom_ok hfromS).1
    have hmemT := (Blocks.reachableFrom_ok hfromT).1
    have hedge : Edge script.blocks.rows s t := edge_of_mem_targets hb ht hfin
    have hfresh : s ∉ fromT := by
      intro hin
      obtain ⟨hmem, rfl⟩ := Table.get?_eq_some_iff.1 hb
      exact h.acyclic rfl b hmem (TransGen.head' hedge ((hmemT _).1 hin).2)
    have hsub : s :: fromT ⊆ fromS := by
      intro u hu
      rcases List.mem_cons.1 hu with rfl | hu
      · exact (hmemS u).2 ⟨hs, ReflTransGen.refl⟩
      · exact (hmemS u).2 ⟨hs, ((hmemT u).1 hu).2.head hedge⟩
    have hnodup : (s :: fromT).Nodup :=
      List.nodup_cons.2 ⟨hfresh, Blocks.reachableFrom_nodup hfromT⟩
    rw [ahead_of_ok hfromS, ahead_of_ok hfromT]
    exact (hnodup.subperm hsub).length_le

end WellFormed

end Script

end ScriptedChat
