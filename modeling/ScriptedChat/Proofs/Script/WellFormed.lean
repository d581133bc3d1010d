import Mathlib.Tactic.ByContra
import ScriptedChat.Proofs.Script.Reachability
import ScriptedChat.Script.Basic

/-!
Which lists make a script. A list of entry points and a list of blocks are well formed when
their fields are filled, no state and no key comes twice, every edge leads to a block or to the
end, every block can be reached, and, where cycles are rejected, no block reaches itself.
Well-formed lists are accepted and no others, and the script has exactly their members.
-/
namespace ScriptedChat

/-- The rules for the fields of one block. -/
def Block.Complete (b : Block) : Prop :=
  b.state ≠ finished ∧
    match b.kind with
    | .message | .question => b.title ≠ "" ∧ b.text ≠ ""
    | .selection choices => choices ≠ [] ∧ ∀ c ∈ choices, c.text ≠ ""

namespace Script

open Relation ScriptedChat.Graph

/-- The rules for the graph of a script. -/
structure Connected (entries : List EntryPoint) (blocks : List Block) (cycles : CyclePolicy) :
    Prop where
  entries_land : ∀ e ∈ entries, ∃ b ∈ blocks, b.state = e.state
  edges_land : ∀ b ∈ blocks, ∀ t, b.LeadsTo t → t = finished ∨ ∃ c ∈ blocks, c.state = t
  used : ∀ b ∈ blocks, ∃ e ∈ entries, Reaches blocks e.state b.state
  acyclic : cycles = .reject → ∀ b ∈ blocks, ¬ OnCycle blocks b.state

/-- The rules for the lists that make a script. -/
structure WellFormed (entries : List EntryPoint) (blocks : List Block) (cycles : CyclePolicy) :
    Prop extends Connected entries blocks cycles where
  complete : ∀ b ∈ blocks, b.Complete
  states_nodup : (blocks.map Block.state).Nodup
  entries_ne_nil : entries ≠ []
  keys_filled : ∀ e ∈ entries, e.key ≠ ""
  keys_nodup : (entries.map EntryPoint.key).Nodup
  entries_begin : ∀ e ∈ entries, e.state ≠ finished

theorem WellFormed.permissive {entries : List EntryPoint} {blocks : List Block}
    {cycles : CyclePolicy} (h : WellFormed entries blocks cycles) :
    WellFormed entries blocks .permissive :=
  { h with acyclic := nofun }

/-- Whether a script has the blocks and the entry points of two lists, and no others. -/
def Holds (script : Script) (entries : List EntryPoint) (blocks : List Block) : Prop :=
  (∀ s b, script.block? s = some b ↔ b ∈ blocks ∧ b.state = s) ∧
    ∀ key e, script.entry? key = some e ↔ e ∈ entries ∧ e.key = key

theorem check_ok_iff {b : Block} : b.check = .ok () ↔ b.Complete := by
  obtain ⟨state, next, title, text, kind⟩ := b
  unfold Block.check Block.Complete
  by_cases hstate : state = finished
  · simp [hstate]
  · cases kind with
    | message =>
      by_cases htitle : title = "" <;> by_cases htext : text = "" <;>
        simp [hstate, htitle, htext]
    | question =>
      by_cases htitle : title = "" <;> by_cases htext : text = "" <;>
        simp [hstate, htitle, htext]
    | selection choices =>
      by_cases hnil : choices = []
      · simp [hstate, hnil]
      · by_cases hany : choices.any (·.text == "") = true
        · have hany' := hany
          simp only [List.any_eq_true, beq_iff_eq] at hany'
          obtain ⟨c, hc, hempty⟩ := hany'
          simp only [hstate, hnil, hany, if_true, if_false]
          exact iff_of_false (by simp) fun h => h.2.2 c hc hempty
        · have hall : ∀ c ∈ choices, c.text ≠ "" := by simpa using hany
          simpa [hstate, hnil, hany] using hall

theorem addBlock_ok_iff (blocks : Blocks) (b : Block) (u : Blocks) :
    addBlock blocks b = .ok u ↔
      b.Complete ∧ blocks.contains b.state = false ∧ u = blocks.insert b := by
  rw [← check_ok_iff, addBlock]
  cases hcheck : b.check with
  | error e => simp [bind, Except.bind]
  | ok _ => cases hfree : blocks.contains b.state <;> simp [bind, Except.bind, eq_comm]

theorem addEntry_ok_iff (entries : EntryPoints) (e : EntryPoint) (u : EntryPoints) :
    addEntry entries e = .ok u ↔
      (e.key ≠ "" ∧ e.state ≠ finished) ∧ entries.contains e.key = false ∧
        u = entries.insert e := by
  rw [addEntry]
  by_cases hkey : e.key = ""
  · simp [hkey]
  · by_cases hstate : e.state = finished
    · simp [hkey, hstate]
    · cases hfree : entries.contains e.key <;> simp [hkey, hstate, eq_comm]

theorem foldlM_addBlock_ok_iff {blocks : List Block} {u : Blocks} :
    blocks.foldlM addBlock .empty = .ok u ↔
      ((∀ b ∈ blocks, b.Complete) ∧ (blocks.map Block.state).Nodup) ∧ u = .ofList blocks := by
  rw [Table.foldlM_insert_ok_iff addBlock_ok_iff]
  simp [Table.contains, Table.ofList, and_assoc]

theorem foldlM_addEntry_ok_iff {entries : List EntryPoint} {u : EntryPoints} :
    entries.foldlM addEntry .empty = .ok u ↔
      ((∀ e ∈ entries, e.key ≠ "" ∧ e.state ≠ finished) ∧
        (entries.map EntryPoint.key).Nodup) ∧ u = .ofList entries := by
  rw [Table.foldlM_insert_ok_iff addEntry_ok_iff]
  simp [Table.contains, Table.ofList, and_assoc]

/-- A script is built in three parts, each of which has its own rules. -/
theorem build_ok_iff {entries : List EntryPoint} {blocks : List Block} {cycles : CyclePolicy}
    {script : Script} :
    build entries blocks cycles = .ok script ↔
      ((∀ b ∈ blocks, b.Complete) ∧ (blocks.map Block.state).Nodup) ∧
      (entries ≠ [] ∧ (∀ e ∈ entries, e.key ≠ "" ∧ e.state ≠ finished) ∧
        (entries.map EntryPoint.key).Nodup) ∧
      script = restore entries blocks ∧
      script.blocks.checkGraph script.entries cycles = .ok () := by
  unfold build
  simp only [Outcome.bind_ok_iff, foldlM_addBlock_ok_iff]
  by_cases hnil : entries = []
  · subst hnil
    simp
  · simp only [List.isEmpty_iff, hnil, if_false, foldlM_addEntry_ok_iff, Outcome.bind_ok_iff,
      Outcome.pure_eq, Except.ok.injEq]
    constructor
    · rintro ⟨_, ⟨hrules, rfl⟩, _, ⟨hrules', rfl⟩, _, hgraph, rfl⟩
      exact ⟨hrules, ⟨hnil, hrules'⟩, rfl, hgraph⟩
    · rintro ⟨hrules, ⟨_, hrules'⟩, rfl, hgraph⟩
      exact ⟨_, ⟨hrules, rfl⟩, _, ⟨hrules', rfl⟩, (), hgraph, rfl⟩

/-- What is reached from an entry point over one edge or more is the target of an edge. -/
theorem Connected.lands {entries : List EntryPoint} {blocks : List Block} {cycles : CyclePolicy}
    (h : Connected entries blocks cycles) {s : State} (hs : Entered entries blocks s) :
    ∃ b ∈ blocks, b.state = s := by
  obtain ⟨e, he, _, hreach⟩ := hs
  cases hreach with
  | refl => exact h.entries_land e he
  | tail _ hedge =>
    obtain ⟨hne, b, hb, _, hleads⟩ := hedge
    exact (h.edges_land b hb s hleads).resolve_left hne

theorem checkGraph_ok_iff_connected {entries : EntryPoints} {blocks : Blocks}
    {cycles : CyclePolicy} (hbegin : ∀ e ∈ entries.rows, e.state ≠ finished) :
    blocks.checkGraph entries cycles = .ok () ↔ Connected entries.rows blocks.rows cycles := by
  rw [Blocks.checkGraph_ok_iff]
  constructor
  · rintro ⟨hsound, hused⟩
    have hlands : ∀ s, Entered entries.rows blocks.rows s → ∃ b ∈ blocks.rows, b.state = s := by
      intro s hs
      by_contra hnone
      refine hsound s hs _ (.missing (Table.get?_eq_none_iff.2 ?_))
      intro b hb hstate
      exact hnone ⟨b, hb, hstate⟩
    refine ⟨?_, ?_, ?_, ?_⟩
    · intro e he
      exact hlands e.state ⟨e, he, hbegin e he, ReflTransGen.refl⟩
    · intro b hb t hleads
      by_cases hfin : t = finished
      · exact Or.inl hfin
      · obtain ⟨e, he, hne, hreach⟩ := hused b hb
        exact Or.inr (hlands t ⟨e, he, hne, hreach.tail ⟨hfin, b, hb, rfl, hleads⟩⟩)
    · intro b hb
      obtain ⟨e, he, _, hreach⟩ := hused b hb
      exact ⟨e, he, hreach⟩
    · intro hcycles b hb hcycle
      exact hsound b.state (hused b hb) _ (.cycle hcycles hcycle)
  · intro h
    constructor
    · rintro s hs _ (hnone | ⟨hcycles, hcycle⟩)
      · obtain ⟨b, hb, hstate⟩ := h.lands hs
        exact Table.get?_eq_none_iff.1 hnone b hb hstate
      · obtain ⟨b, hb, rfl⟩ := h.lands hs
        exact h.acyclic hcycles b hb hcycle
    · intro b hb
      obtain ⟨e, he, hreach⟩ := h.used b hb
      exact ⟨e, he, hbegin e he, hreach⟩

theorem connected_congr {entries entries' : List EntryPoint} {blocks blocks' : List Block}
    {cycles : CyclePolicy} (he : ∀ e, e ∈ entries ↔ e ∈ entries')
    (hb : ∀ b, b ∈ blocks ↔ b ∈ blocks') :
    Connected entries blocks cycles ↔ Connected entries' blocks' cycles := by
  have hedge : Edge blocks = Edge blocks' := edge_congr hb
  constructor
  · intro h
    refine ⟨?_, ?_, ?_, ?_⟩
    · simpa only [he, hb] using h.entries_land
    · simpa only [he, hb] using h.edges_land
    · simpa only [he, hb, Reaches, hedge] using h.used
    · simpa only [he, hb, OnCycle, hedge] using h.acyclic
  · intro h
    refine ⟨?_, ?_, ?_, ?_⟩
    · simpa only [he, hb] using h.entries_land
    · simpa only [he, hb] using h.edges_land
    · simpa only [he, hb, Reaches, hedge] using h.used
    · simpa only [he, hb, OnCycle, hedge] using h.acyclic

theorem holds_restore {entries : List EntryPoint} {blocks : List Block}
    (he : (entries.map EntryPoint.key).Nodup) (hb : (blocks.map Block.state).Nodup) :
    (restore entries blocks).Holds entries blocks := by
  constructor
  · intro s b
    rw [block?, Table.get?_eq_some_iff, restore, Table.mem_ofList hb]
  · intro key e
    unfold entry?
    rw [Table.get?_eq_some_iff, restore, Table.mem_ofList he]

/-- Building a script checks the rules and then puts the lists into tables. -/
theorem build_ok_iff_wellFormed {entries : List EntryPoint} {blocks : List Block}
    {cycles : CyclePolicy} {script : Script} :
    build entries blocks cycles = .ok script ↔
      WellFormed entries blocks cycles ∧ script = restore entries blocks := by
  rw [build_ok_iff]
  have hgraph : (blocks.map Block.state).Nodup → (entries.map EntryPoint.key).Nodup →
      (∀ e ∈ entries, e.key ≠ "" ∧ e.state ≠ finished) →
      ((restore entries blocks).blocks.checkGraph (restore entries blocks).entries cycles =
        .ok () ↔ Connected entries blocks cycles) := by
    intro hb he hfilled
    have hmem : ∀ e, e ∈ (restore entries blocks).entries.rows ↔ e ∈ entries :=
      fun _ => Table.mem_ofList he
    rw [checkGraph_ok_iff_connected fun e h => (hfilled e ((hmem e).1 h)).2]
    exact connected_congr hmem fun _ => Table.mem_ofList hb
  constructor
  · rintro ⟨⟨hcomplete, hb⟩, ⟨hnil, hfilled, he⟩, rfl, hcheck⟩
    exact ⟨⟨(hgraph hb he hfilled).1 hcheck, hcomplete, hb, hnil, fun e h => (hfilled e h).1, he,
      fun e h => (hfilled e h).2⟩, rfl⟩
  · rintro ⟨h, rfl⟩
    have hfilled : ∀ e ∈ entries, e.key ≠ "" ∧ e.state ≠ finished :=
      fun e he => ⟨h.keys_filled e he, h.entries_begin e he⟩
    exact ⟨⟨h.complete, h.states_nodup⟩, ⟨h.entries_ne_nil, hfilled, h.keys_nodup⟩, rfl,
      (hgraph h.states_nodup h.keys_nodup hfilled).2 h.toConnected⟩

/-- The lists that a script gives back are as well formed as those that it was built from. -/
theorem wellFormed_rows_of_build {entries : List EntryPoint} {blocks : List Block}
    {cycles : CyclePolicy} {script : Script} (h : build entries blocks cycles = .ok script) :
    WellFormed script.entries.rows script.blocks.rows cycles := by
  obtain ⟨hwf, rfl⟩ := build_ok_iff_wellFormed.1 h
  have he : ∀ e, e ∈ (restore entries blocks).entries.rows ↔ e ∈ entries :=
    fun _ => Table.mem_ofList hwf.keys_nodup
  have hb : ∀ b, b ∈ (restore entries blocks).blocks.rows ↔ b ∈ blocks :=
    fun _ => Table.mem_ofList hwf.states_nodup
  refine ⟨(connected_congr he hb).2 hwf.toConnected, ?_, Table.keys_nodup _, ?_, ?_,
    Table.keys_nodup _, ?_⟩
  · intro b hmem
    exact hwf.complete b ((hb b).1 hmem)
  · obtain ⟨e, hmem⟩ := List.exists_mem_of_ne_nil _ hwf.entries_ne_nil
    exact List.ne_nil_of_mem ((he e).2 hmem)
  · intro e hmem
    exact hwf.keys_filled e ((he e).1 hmem)
  · intro e hmem
    exact hwf.entries_begin e ((he e).1 hmem)

/-- Scripts that were built from some lists. -/
def Accepted (script : Script) : Prop :=
  ∃ entries blocks cycles, build entries blocks cycles = .ok script

theorem Accepted.block_ne_finished {script : Script} (h : script.Accepted) {s : State}
    {b : Block} (hb : script.block? s = some b) : s ≠ finished := by
  obtain ⟨entries, blocks, cycles, hbuild⟩ := h
  obtain ⟨hwf, rfl⟩ := build_ok_iff_wellFormed.1 hbuild
  obtain ⟨hmem, hstate⟩ := ((holds_restore hwf.keys_nodup hwf.states_nodup).1 s b).1 hb
  rw [← hstate]
  exact (hwf.complete b hmem).1

theorem Accepted.entry_ne_finished {script : Script} (h : script.Accepted) {key : String}
    {e : EntryPoint} (he : script.entry? key = some e) : e.state ≠ finished := by
  obtain ⟨entries, blocks, cycles, hbuild⟩ := h
  obtain ⟨hwf, rfl⟩ := build_ok_iff_wellFormed.1 hbuild
  have hmem := ((holds_restore hwf.keys_nodup hwf.states_nodup).2 key e).1 he
  exact hwf.entries_begin e hmem.1

/-- Lists make a script exactly when they are well formed, and the script has what they have. -/
theorem build_accepts_wellFormed (entries : List EntryPoint) (blocks : List Block)
    (cycles : CyclePolicy) :
    ((∃ script, build entries blocks cycles = .ok script) ↔ WellFormed entries blocks cycles) ∧
      ∀ script, build entries blocks cycles = .ok script → script.Holds entries blocks := by
  constructor
  · constructor
    · rintro ⟨script, h⟩
      exact (build_ok_iff_wellFormed.1 h).1
    · intro h
      exact ⟨restore entries blocks, build_ok_iff_wellFormed.2 ⟨h, rfl⟩⟩
  · intro script h
    obtain ⟨hwf, rfl⟩ := build_ok_iff_wellFormed.1 h
    exact holds_restore hwf.keys_nodup hwf.states_nodup

/-- A selection that leads back to itself and to a block that two blocks share. -/
theorem build_accepts_retry :
    let entries : List EntryPoint := [⟨"start", 1⟩, ⟨"again", 3⟩]
    let blocks : List Block := [⟨3, 4, "Name", "Who are you?", .question⟩,
      ⟨1, 1, "", "", .selection [⟨"go", 3⟩, ⟨"skip", 4⟩]⟩, ⟨4, 0, "End", "Bye", .message⟩]
    ∃ script, build entries blocks .permissive = .ok script ∧ script.Holds entries blocks := by
  intro entries blocks
  have h : build entries blocks .permissive = .ok (restore entries blocks) := by decide +kernel
  exact ⟨restore entries blocks, h, (build_accepts_wellFormed entries blocks .permissive).2 _ h⟩

end Script

end ScriptedChat
