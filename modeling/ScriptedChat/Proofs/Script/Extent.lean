import ScriptedChat.Proofs.Script.Descent

/-!
How far a root reaches. The reached states are told without a search: the root is one of them, and
so is every state that the block of a reached state leads to, the end of the script apart. The
list of reachable states has just these, whatever loops there are, and fails exactly when one of
them has no block. In an accepted script none of them is without.
-/
namespace ScriptedChat

namespace Blocks

open Relation ScriptedChat.Graph

/-- The states that a root reaches over blocks of the table. A state without a block is reached as
well, but nothing is reached from there. -/
inductive Reached (blocks : Blocks) (root : State) : State → Prop
  | root (hne : root ≠ finished) : Reached blocks root root
  | step {s t : State} {b : Block} (hs : Reached blocks root s) (hb : blocks.get? s = some b)
      (hleads : b.LeadsTo t) (hne : t ≠ finished) : Reached blocks root t

variable {blocks : Blocks} {root s : State}

theorem reached_iff : blocks.Reached root s ↔ root ≠ finished ∧ Reaches blocks.rows root s := by
  constructor
  · intro h
    induction h with
    | root hne => exact ⟨hne, ReflTransGen.refl⟩
    | step _ hb hleads hne ih =>
      have hedge := edge_of_mem_targets hb (Block.mem_targets.2 hleads) hne
      exact ⟨ih.1, ih.2.tail hedge⟩
  · intro h
    obtain ⟨hroot, hpath⟩ := h
    refine Reaches.preserve ?_ hpath (.root hroot)
    intro u v hu huv
    obtain ⟨b, hb, hv⟩ := exists_block_of_edge huv
    exact .step hu hb (Block.mem_targets.1 hv) huv.1

theorem Reached.ne_finished (h : blocks.Reached root s) : s ≠ finished := by
  cases h with
  | root hne => exact hne
  | step _ _ _ hne => exact hne

theorem not_reached_finished : ¬ blocks.Reached finished s := by
  intro h
  exact (reached_iff.1 h).1 rfl

theorem reachableFrom_ascending {reached : List State}
    (h : blocks.reachableFrom root = .ok reached) : reached.Pairwise (· < ·) := by
  obtain ⟨p, _, rfl⟩ := Outcome.map_ok_iff.1 h
  exact p.marks.keys_ascending.imp Std.compare_eq_lt.1

theorem mem_reachableFrom {reached : List State} (h : blocks.reachableFrom root = .ok reached) :
    s ∈ reached ↔ blocks.Reached root s := by
  rw [(reachableFrom_ok h).1 s, reached_iff]

/-- The list fails when a reached state is missing, and with the error that names one. -/
theorem reachableFrom_missing (h : blocks.Reached root s) (hnone : blocks.get? s = none) :
    ∃ t, blocks.Reached root t ∧ blocks.get? t = none ∧
      blocks.reachableFrom root = .error (.blockNotFound t) := by
  cases hreached : blocks.reachableFrom root with
  | ok reached =>
    have hsome := ((reachableFrom_ok hreached).2 s ((mem_reachableFrom hreached).2 h)).2
    rw [hnone] at hsome
    cases hsome
  | error e =>
    obtain ⟨hne, t, hpath, hmissing, rfl⟩ := reachableFrom_error hreached
    exact ⟨t, reached_iff.2 ⟨hne, hpath⟩, hmissing, rfl⟩

/-- The list succeeds when no reached state is missing. -/
theorem reachableFrom_complete (h : ∀ s, blocks.Reached root s → (blocks.get? s).isSome) :
    ∃ reached, blocks.reachableFrom root = .ok reached := by
  cases hreached : blocks.reachableFrom root with
  | ok reached => exact ⟨reached, rfl⟩
  | error e =>
    obtain ⟨hne, t, hpath, hmissing, _⟩ := reachableFrom_error hreached
    have hsome := h t (reached_iff.2 ⟨hne, hpath⟩)
    rw [hmissing] at hsome
    cases hsome

/-- The end of the script reaches nothing. -/
theorem reachableFrom_finished (blocks : Blocks) : blocks.reachableFrom finished = .ok [] := by
  have hvacuous : ∀ s, blocks.Reached finished s → (blocks.get? s).isSome :=
    fun _ hs => absurd hs not_reached_finished
  obtain ⟨reached, hreached⟩ := reachableFrom_complete hvacuous
  have hnil : reached = [] := by
    apply List.eq_nil_iff_forall_not_mem.2
    intro s hs
    exact not_reached_finished ((mem_reachableFrom hreached).1 hs)
  rw [hreached, hnil]

end Blocks

theorem Script.Accepted.exists_reachableFrom {script : Script} (h : script.Accepted) {s : State}
    (hs : script.HasState s) : ∃ reached, script.blocks.reachableFrom s = .ok reached := by
  obtain ⟨entries, blocks, cycles, hbuild⟩ := h
  exact (wellFormed_rows_of_build hbuild).exists_reachableFrom hs

namespace Blocks

/-- The list of reachable states is exact: it has the reached states and no others, in ascending
order, when all of them are blocks, and otherwise names one that is none. Nothing is reached from
the end of the script, and the end is never among the reached states. Accepted scripts have the
lists of all their states. -/
theorem reachableFrom_exact (blocks : Blocks) (root : State) :
    ((∀ s, blocks.Reached root s → (blocks.get? s).isSome) →
      ∃ reached, blocks.reachableFrom root = .ok reached ∧ reached.Pairwise (· < ·) ∧
        ∀ s, s ∈ reached ↔ blocks.Reached root s) ∧
    ((∃ s, blocks.Reached root s ∧ blocks.get? s = none) →
      ∃ s, blocks.Reached root s ∧ blocks.get? s = none ∧
        blocks.reachableFrom root = .error (.blockNotFound s)) ∧
    blocks.reachableFrom finished = .ok [] ∧
    (∀ reached, blocks.reachableFrom root = .ok reached → finished ∉ reached) ∧
    ∀ script : Script, script.Accepted → script.blocks = blocks → script.HasState root →
      ∃ reached, blocks.reachableFrom root = .ok reached := by
  refine ⟨?_, ?_, reachableFrom_finished blocks, ?_, ?_⟩
  · intro h
    obtain ⟨reached, hreached⟩ := reachableFrom_complete h
    exact ⟨reached, hreached, reachableFrom_ascending hreached,
      fun s => mem_reachableFrom hreached⟩
  · intro h
    obtain ⟨s, hs, hnone⟩ := h
    exact reachableFrom_missing hs hnone
  · intro reached hreached hmem
    exact ((mem_reachableFrom hreached).1 hmem).ne_finished rfl
  · intro script hscript hblocks hstate
    rw [← hblocks]
    exact hscript.exists_reachableFrom hstate

/-- A question and a message that lead to each other, and a block behind them that leads to a
state without one. -/
theorem reachableFrom_exact_loop :
    let entries : List EntryPoint := [⟨"start", 1⟩]
    let loop : List Block := [⟨1, 2, "Name", "Who are you?", .question⟩,
      ⟨2, 1, "Again", "Once more", .message⟩]
    let blocks : Blocks := .ofList loop
    let lost : Blocks := .ofList (⟨3, 9, "Lost", "Where to?", .question⟩ :: loop)
    ((∀ s, blocks.Reached 2 s → (blocks.get? s).isSome) ∧
      ∃ reached, blocks.reachableFrom 2 = .ok reached ∧ reached.Pairwise (· < ·) ∧
        ∀ s, s ∈ reached ↔ blocks.Reached 2 s) ∧
      ((∃ s, lost.Reached 3 s ∧ lost.get? s = none) ∧
        ∃ s, lost.Reached 3 s ∧ lost.get? s = none ∧
          lost.reachableFrom 3 = .error (.blockNotFound s)) ∧
      blocks.reachableFrom finished = .ok [] ∧
      blocks.reachableFrom 2 = .ok [1, 2] ∧ finished ∉ [1, 2] ∧
      (Script.restore entries loop).Accepted ∧ (Script.restore entries loop).HasState 2 ∧
      ∃ reached, blocks.reachableFrom 2 = .ok reached := by
  intro entries loop blocks lost
  have hfirst : blocks.get? 1 = some ⟨1, 2, "Name", "Who are you?", .question⟩ := by
    decide +kernel
  have hsecond : blocks.get? 2 = some ⟨2, 1, "Again", "Once more", .message⟩ := by
    decide +kernel
  have hlost : lost.get? 3 = some ⟨3, 9, "Lost", "Where to?", .question⟩ := by decide +kernel
  have hround : ∀ s, blocks.Reached 2 s → s = 1 ∨ s = 2 := by
    intro s hs
    induction hs with
    | root _ => exact .inr rfl
    | step _ hb hleads _ ih =>
      rcases ih with rfl | rfl
      · rw [hfirst, Option.some.injEq] at hb
        subst hb
        exact .inr (by simpa [Block.targets, Block.choices] using Block.mem_targets.2 hleads)
      · rw [hsecond, Option.some.injEq] at hb
        subst hb
        exact .inl (by simpa [Block.targets, Block.choices] using Block.mem_targets.2 hleads)
  have hall : ∀ s, blocks.Reached 2 s → (blocks.get? s).isSome := by
    intro s hs
    rcases hround s hs with rfl | rfl
    · rw [hfirst]
      rfl
    · rw [hsecond]
      rfl
  have hmissing : ∃ s, lost.Reached 3 s ∧ lost.get? s = none := by
    refine ⟨9, .step (.root (by decide)) hlost (Block.mem_targets.1 ?_) (by decide), ?_⟩
    · decide
    · decide +kernel
  have haccepted : (Script.restore entries loop).Accepted :=
    ⟨entries, loop, .permissive, by decide +kernel⟩
  have hstate : (Script.restore entries loop).HasState 2 := Script.hasState_of_block hsecond
  obtain ⟨hexact, _, hend, hnever, haccept⟩ := reachableFrom_exact blocks 2
  have hlist : blocks.reachableFrom 2 = .ok [1, 2] := by decide +kernel
  exact ⟨⟨hall, hexact hall⟩, ⟨hmissing, (reachableFrom_exact lost 3).2.1 hmissing⟩, hend, hlist,
    hnever [1, 2] hlist, haccepted, hstate, haccept _ haccepted rfl hstate⟩

end Blocks

end ScriptedChat
