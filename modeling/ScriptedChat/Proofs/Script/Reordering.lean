import ScriptedChat.Proofs.Bots
import ScriptedChat.Proofs.Script.Rejection

/-!
The order of the lists that make a script. The items of a list are checked one by one, so which
of several faults is told depends on their order; whether there is a fault does not. Lists
without faults make the same tables in every order, and the search through the graph knows
nothing but these tables, so its outcome is the same as well. The lists that a script gives back
are one of these orders, and make the same script again.
-/
namespace ScriptedChat.Script

variable {entries entries' : List EntryPoint} {blocks blocks' : List Block}
  {cycles : CyclePolicy} {script : Script}

theorem SoundBlocks.perm (h : blocks.Perm blocks') (hblocks : SoundBlocks blocks) :
    SoundBlocks blocks' :=
  ⟨fun b hb => hblocks.1 b (h.mem_iff.2 hb), (h.map Block.state).nodup_iff.1 hblocks.2⟩

theorem SoundEntries.perm (h : entries.Perm entries') (hentries : SoundEntries entries) :
    SoundEntries entries' :=
  ⟨fun e he => hentries.1 e (h.mem_iff.2 he), (h.map EntryPoint.key).nodup_iff.1 hentries.2⟩

/-- Items under keys of their own make the same tables in every order. -/
theorem restore_perm (hentries : entries.Perm entries') (hblocks : blocks.Perm blocks')
    (hkeys : (entries.map EntryPoint.key).Nodup) (hstates : (blocks.map Block.state).Nodup) :
    restore entries' blocks' = restore entries blocks := by
  rw [restore, Table.ofList_perm hentries hkeys, Table.ofList_perm hblocks hstates, restore]

/-- Lists whose items are all in order are built when the graph of their tables is. -/
theorem build_eq_checkGraph (hblocks : SoundBlocks blocks) (hentries : SoundEntries entries)
    (hne : entries ≠ []) : build entries blocks cycles =
      ((restore entries blocks).blocks.checkGraph (restore entries blocks).entries cycles).map
        fun _ => restore entries blocks := by
  have hnil : entries.isEmpty = false := by simpa using hne
  simp only [build, foldlM_addBlock_ok_iff.2 ⟨hblocks, rfl⟩,
    foldlM_addEntry_ok_iff.2 ⟨hentries, rfl⟩, hnil, Outcome.ok_bind, Bool.false_eq_true, if_false,
    restore]
  cases Blocks.checkGraph (Table.ofList blocks) (Table.ofList entries) cycles <;> rfl

/-- Lists in another order make the same script, with the same fault if there is one in the graph
only. -/
theorem build_perm (hentries : entries.Perm entries') (hblocks : blocks.Perm blocks')
    (hsoundBlocks : SoundBlocks blocks) (hsoundEntries : SoundEntries entries)
    (hne : entries ≠ []) : build entries' blocks' cycles = build entries blocks cycles := by
  have hne' : entries' ≠ [] := fun hnil => hne (hnil ▸ hentries).eq_nil
  rw [build_eq_checkGraph (hsoundBlocks.perm hblocks) (hsoundEntries.perm hentries) hne',
    build_eq_checkGraph hsoundBlocks hsoundEntries hne,
    restore_perm hentries hblocks hsoundEntries.2 hsoundBlocks.2]

theorem build_ok_of_perm (hentries : entries.Perm entries') (hblocks : blocks.Perm blocks')
    (h : build entries blocks cycles = .ok script) :
    build entries' blocks' cycles = .ok script := by
  obtain ⟨hsoundBlocks, ⟨hne, hsoundEntries⟩, _⟩ := build_ok_iff.1 h
  rw [build_perm hentries hblocks hsoundBlocks hsoundEntries hne, h]

/-- Acceptance does not depend on the order of the lists, nor does the script. -/
theorem build_ok_perm_iff (hentries : entries.Perm entries') (hblocks : blocks.Perm blocks') :
    build entries' blocks' cycles = .ok script ↔ build entries blocks cycles = .ok script :=
  ⟨build_ok_of_perm hentries.symm hblocks.symm, build_ok_of_perm hentries hblocks⟩

/-- An accepted script is accepted again. -/
theorem build_rows (h : build entries blocks cycles = .ok script) :
    build script.entries.rows script.blocks.rows cycles = .ok script :=
  build_ok_iff_wellFormed.2 ⟨wellFormed_rows_of_build h, (restore_rows script).symm⟩

end ScriptedChat.Script
