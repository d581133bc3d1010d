import Mathlib.Logic.Relation
import ScriptedChat.Proofs.Tables
import ScriptedChat.Script.Painter

/-!
The graph of a list of blocks. Its vertices are states other than the end of the script, and
an edge goes from the state of a block to every state that the block can lead to. Only the
members of the list matter, so a table of blocks has the graph of its rows.
-/
namespace ScriptedChat

/-- Whether a block can lead to a state, by a choice or by going on. -/
def Block.LeadsTo (b : Block) (t : State) : Prop :=
  b.next = t ∨ ∃ c ∈ b.choices, c.next = t

theorem Block.mem_targets {b : Block} {t : State} : t ∈ b.targets ↔ b.LeadsTo t := by
  simp only [Block.targets, Block.LeadsTo, List.mem_append, List.mem_map, List.mem_singleton]
  rw [or_comm, eq_comm]

/-- An input never leads where the graph does not. -/
theorem Block.route_mem_targets (b : Block) (input : String) : b.route input ∈ b.targets := by
  rw [Block.mem_targets, Block.route]
  split
  · rename_i c hc
    exact Or.inr ⟨c, List.mem_of_find?_eq_some hc, rfl⟩
  · exact Or.inl rfl

namespace Graph

open Relation

def Edge (l : List Block) (s t : State) : Prop :=
  t ≠ finished ∧ ∃ b ∈ l, b.state = s ∧ b.LeadsTo t

/-- A state is reached from itself, and over any number of edges. -/
abbrev Reaches (l : List Block) : State → State → Prop := ReflTransGen (Edge l)

/-- Whether a state lies on a cycle. -/
def OnCycle (l : List Block) (s : State) : Prop := TransGen (Edge l) s s

/-- Whether an entry point of a list reaches a state. -/
def Entered (entries : List EntryPoint) (l : List Block) (s : State) : Prop :=
  ∃ e ∈ entries, e.state ≠ finished ∧ Reaches l e.state s

theorem entered_cons {e : EntryPoint} {rest : List EntryPoint} {l : List Block} {s : State} :
    Entered (e :: rest) l s ↔
      (e.state ≠ finished ∧ Reaches l e.state s) ∨ Entered rest l s := by
  simp only [Entered, List.mem_cons, or_and_right, exists_or, exists_eq_left]

theorem edge_congr {l m : List Block} (h : ∀ b, b ∈ l ↔ b ∈ m) : Edge l = Edge m := by
  funext s t
  simp only [Edge, h]

theorem edge_of_mem_targets {blocks : Blocks} {s t : State} {b : Block}
    (hb : blocks.get? s = some b) (ht : t ∈ b.targets) (hne : t ≠ finished) :
    Edge blocks.rows s t := by
  obtain ⟨hmem, hstate⟩ := Table.get?_eq_some_iff.1 hb
  exact ⟨hne, b, hmem, hstate, Block.mem_targets.1 ht⟩

theorem exists_block_of_edge {blocks : Blocks} {s t : State} (h : Edge blocks.rows s t) :
    ∃ b, blocks.get? s = some b ∧ t ∈ b.targets := by
  obtain ⟨_, b, hb, hstate, hleads⟩ := h
  exact ⟨b, Table.get?_eq_some_iff.2 ⟨hb, hstate⟩, Block.mem_targets.2 hleads⟩

/-- A property that edges pass on reaches as far as the edges do. -/
theorem Reaches.preserve {l : List Block} {s t : State} {P : State → Prop}
    (hedge : ∀ u v, P u → Edge l u v → P v) (h : Reaches l s t) (hs : P s) : P t := by
  induction h with
  | refl => exact hs
  | tail _ huv ih => exact hedge _ _ ih huv

end Graph

end ScriptedChat
