import ScriptedChat.Proofs.Script.WellFormed

/-!
Why lists make no script. The list of blocks is worked through first, then that of the entry
points and then the graph of both, so a fault of one part is told only when the parts before it
are sound. A list is rejected for its first item that breaks a rule for its fields or repeats a
key, and which rule that is does not depend on anything behind the item. A graph is rejected for
a state that an entry point leads to, or for the lowest block that none leads to when there is
nothing else to tell.
-/
namespace ScriptedChat

/-- The first rule for its fields that a block breaks. -/
inductive Block.Breaks (b : Block) : InputFault → Prop
  | zeroState (h : b.state = finished) : b.Breaks .zeroState
  | emptyTitle (hstate : b.state ≠ finished) (hkind : b.kind = .message ∨ b.kind = .question)
      (h : b.title = "") : b.Breaks (.emptyTitle b.state)
  | emptyText (hstate : b.state ≠ finished) (hkind : b.kind = .message ∨ b.kind = .question)
      (htitle : b.title ≠ "") (h : b.text = "") : b.Breaks (.emptyText b.state)
  | noOptions (hstate : b.state ≠ finished) (hkind : b.kind = .selection []) :
      b.Breaks (.noOptions b.state)
  | emptyOption {choices : List Choice} {c : Choice} (hstate : b.state ≠ finished)
      (hkind : b.kind = .selection choices) (hc : c ∈ choices) (h : c.text = "") :
      b.Breaks (.emptyOption b.state)

/-- The first rule for its fields that an entry point breaks. -/
inductive EntryPoint.Breaks (e : EntryPoint) : InputFault → Prop
  | emptyKey (h : e.key = "") : e.Breaks .emptyEntryKey
  | noTarget (hkey : e.key ≠ "") (h : e.state = finished) : e.Breaks (.entryWithoutTarget e.key)

theorem Block.check_error_iff {b : Block} {e : Error} :
    b.check = .error e ↔ ∃ fault, e = .invalidInput fault ∧ b.Breaks fault := by
  constructor
  · intro h
    unfold check at h
    split at h
    · rename_i hstate
      cases h
      exact ⟨_, rfl, .zeroState hstate⟩
    · rename_i hstate
      have hfilled : b.kind = .message ∨ b.kind = .question →
          (if b.title = "" then .error (.invalidInput (.emptyTitle b.state))
            else if b.text = "" then .error (.invalidInput (.emptyText b.state))
            else .ok () : Except Error Unit) = .error e →
          ∃ fault, e = .invalidInput fault ∧ b.Breaks fault := by
        intro hkind h
        split at h
        · rename_i htitle
          cases h
          exact ⟨_, rfl, .emptyTitle hstate hkind htitle⟩
        · rename_i htitle
          split at h
          · rename_i htext
            cases h
            exact ⟨_, rfl, .emptyText hstate hkind htitle htext⟩
          · cases h
      split at h
      · rename_i hkind
        exact hfilled (.inl hkind) h
      · rename_i hkind
        exact hfilled (.inr hkind) h
      · rename_i choices hkind
        split at h
        · rename_i hnil
          cases h
          exact ⟨_, rfl, .noOptions hstate (hnil ▸ hkind)⟩
        · split at h
          · rename_i hany
            cases h
            simp only [List.any_eq_true, beq_iff_eq] at hany
            obtain ⟨c, hc, hempty⟩ := hany
            exact ⟨_, rfl, .emptyOption hstate hkind hc hempty⟩
          · cases h
  · rintro ⟨fault, rfl, hbreaks⟩
    unfold check
    cases hbreaks with
    | zeroState h => rw [if_pos h]
    | emptyTitle hstate hkind h => rcases hkind with hkind | hkind <;> simp [hstate, hkind, h]
    | emptyText hstate hkind htitle h =>
      rcases hkind with hkind | hkind <;> simp [hstate, hkind, htitle, h]
    | noOptions hstate hkind => simp [hstate, hkind]
    | @emptyOption choices c hstate hkind hc h =>
      have hany : choices.any (·.text == "") = true := by
        simp only [List.any_eq_true, beq_iff_eq]
        exact ⟨c, hc, h⟩
      have hne : choices ≠ [] := List.ne_nil_of_mem hc
      simp only [hstate, hkind, hne, hany, if_true, if_false]

namespace Script

open Relation ScriptedChat.Graph

/-- Blocks with filled fields, no two of them at one state. -/
def SoundBlocks (blocks : List Block) : Prop :=
  (∀ b ∈ blocks, b.Complete) ∧ (blocks.map Block.state).Nodup

instance (b : Block) : Decidable b.Complete :=
  decidable_of_iff (b.check = .ok ()) check_ok_iff

instance (blocks : List Block) : Decidable (SoundBlocks blocks) :=
  inferInstanceAs (Decidable (_ ∧ _))

/-- Entry points with keys and targets, no two of them under one key. -/
def SoundEntries (entries : List EntryPoint) : Prop :=
  (∀ e ∈ entries, e.key ≠ "" ∧ e.state ≠ finished) ∧ (entries.map EntryPoint.key).Nodup

instance (entries : List EntryPoint) : Decidable (SoundEntries entries) :=
  inferInstanceAs (Decidable (_ ∧ _))

/-- The first fault in a list of blocks. -/
inductive BlockFault (blocks : List Block) : Error → Prop
  | field {before after : List Block} {b : Block} {fault : InputFault}
      (hsplit : blocks = before ++ b :: after) (hbefore : SoundBlocks before)
      (h : b.Breaks fault) : BlockFault blocks (.invalidInput fault)
  | twice {before after : List Block} {a b : Block} (hsplit : blocks = before ++ b :: after)
      (hbefore : SoundBlocks before) (hb : b.Complete) (ha : a ∈ before)
      (h : a.state = b.state) : BlockFault blocks (.blockDuplicated b.state)

/-- The first fault in a list of entry points. -/
inductive EntryFault (entries : List EntryPoint) : Error → Prop
  | nothing (h : entries = []) : EntryFault entries (.invalidInput .noEntryPoint)
  | field {before after : List EntryPoint} {e : EntryPoint} {fault : InputFault}
      (hsplit : entries = before ++ e :: after) (hbefore : SoundEntries before)
      (h : e.Breaks fault) : EntryFault entries (.invalidInput fault)
  | twice {before after : List EntryPoint} {a e : EntryPoint}
      (hsplit : entries = before ++ e :: after) (hbefore : SoundEntries before)
      (he : e.key ≠ "" ∧ e.state ≠ finished) (ha : a ∈ before) (h : a.key = e.key) :
      EntryFault entries (.entryDuplicated e.key)

/-- Whether an entry point, or a block that one reaches, leads to a state. -/
def Sought (entries : List EntryPoint) (blocks : List Block) (s : State) : Prop :=
  (∃ e ∈ entries, e.state = s) ∨
    ∃ b ∈ blocks, Entered entries blocks b.state ∧ b.LeadsTo s

/-- A fault in the graph of entry points and blocks. -/
inductive GraphFault (entries : List EntryPoint) (blocks : List Block) (cycles : CyclePolicy) :
    Error → Prop
  | missing {s : State} (hne : s ≠ finished) (hnone : ∀ b ∈ blocks, b.state ≠ s)
      (hsought : Sought entries blocks s) : GraphFault entries blocks cycles (.blockNotFound s)
  | cycle {b : Block} (hcycles : cycles = .reject) (hb : b ∈ blocks)
      (hentered : Entered entries blocks b.state) (hcycle : OnCycle blocks b.state) :
      GraphFault entries blocks cycles (.cycleDetected b.state)
  | unused {b : Block} (hb : b ∈ blocks) (hunused : ¬ Entered entries blocks b.state)
      (hleast : ∀ c ∈ blocks, ¬ Entered entries blocks c.state → b.state ≤ c.state)
      (hlands : ∀ s, s ≠ finished → Sought entries blocks s → ∃ c ∈ blocks, c.state = s)
      (hacyclic : cycles = .reject → ∀ c ∈ blocks, Entered entries blocks c.state →
        ¬ OnCycle blocks c.state) : GraphFault entries blocks cycles (.unusedBlock b.state)

/-- What lists are rejected for. -/
inductive Rejection (entries : List EntryPoint) (blocks : List Block) (cycles : CyclePolicy) :
    Error → Prop
  | blocks {e : Error} (h : BlockFault blocks e) : Rejection entries blocks cycles e
  | entries {e : Error} (hblocks : SoundBlocks blocks) (h : EntryFault entries e) :
      Rejection entries blocks cycles e
  | graph {e : Error} (hblocks : SoundBlocks blocks) (hne : entries ≠ [])
      (hentries : SoundEntries entries) (h : GraphFault entries blocks cycles e) :
      Rejection entries blocks cycles e

section Lists

variable {entries : List EntryPoint} {blocks : List Block} {e : Error}

theorem addBlock_error_iff {u : Blocks} {b : Block} :
    addBlock u b = .error e ↔ b.check = .error e ∨
      b.Complete ∧ u.contains b.state = true ∧ e = .blockDuplicated b.state := by
  rw [addBlock, Outcome.bind_error_iff, ← check_ok_iff]
  refine or_congr_right ?_
  cases hcheck : b.check with
  | error f => simp
  | ok _ => cases u.contains b.state <;> simp [eq_comm]

theorem addEntry_error_iff {u : EntryPoints} {entry : EntryPoint} :
    addEntry u entry = .error e ↔ (∃ fault, e = .invalidInput fault ∧ entry.Breaks fault) ∨
      (entry.key ≠ "" ∧ entry.state ≠ finished) ∧ u.contains entry.key = true ∧
        e = .entryDuplicated entry.key := by
  unfold addEntry
  by_cases hkey : entry.key = ""
  · rw [if_pos hkey, Except.error.injEq]
    constructor
    · rintro rfl
      exact .inl ⟨_, rfl, .emptyKey hkey⟩
    · rintro (⟨fault, rfl, hbreaks⟩ | ⟨hfilled, _⟩)
      · cases hbreaks with
        | emptyKey _ => rfl
        | noTarget hne _ => exact absurd hkey hne
      · exact absurd hkey hfilled.1
  · rw [if_neg hkey]
    by_cases hstate : entry.state = finished
    · rw [if_pos hstate, Except.error.injEq]
      constructor
      · rintro rfl
        exact .inl ⟨_, rfl, .noTarget hkey hstate⟩
      · rintro (⟨fault, rfl, hbreaks⟩ | ⟨hfilled, _⟩)
        · cases hbreaks with
          | emptyKey h => exact absurd h hkey
          | noTarget _ _ => rfl
        · exact absurd hstate hfilled.2
    · rw [if_neg hstate]
      have hkept : ∀ fault, ¬ entry.Breaks fault := by
        intro fault hbreaks
        cases hbreaks with
        | emptyKey h => exact hkey h
        | noTarget _ h => exact hstate h
      cases u.contains entry.key <;> simp [hkey, hstate, hkept, eq_comm]

theorem foldlM_addBlock_error_iff :
    blocks.foldlM addBlock .empty = .error e ↔ BlockFault blocks e := by
  rw [Outcome.foldlM_error_iff]
  constructor
  · rintro ⟨before, b, after, u, rfl, hbefore, hb⟩
    obtain ⟨hsound, rfl⟩ := foldlM_addBlock_ok_iff.1 hbefore
    rcases addBlock_error_iff.1 hb with hcheck | ⟨hcomplete, htaken, rfl⟩
    · obtain ⟨fault, rfl, hbreaks⟩ := Block.check_error_iff.1 hcheck
      exact .field rfl hsound hbreaks
    · obtain ⟨a, ha, hstate⟩ := (Table.contains_ofList hsound.2).1 htaken
      exact .twice rfl hsound hcomplete ha hstate
  · rintro (⟨rfl, hsound, hbreaks⟩ | ⟨rfl, hsound, hcomplete, ha, hstate⟩)
    · refine ⟨_, _, _, _, rfl, foldlM_addBlock_ok_iff.2 ⟨hsound, rfl⟩, ?_⟩
      exact addBlock_error_iff.2 (.inl (Block.check_error_iff.2 ⟨_, rfl, hbreaks⟩))
    · refine ⟨_, _, _, _, rfl, foldlM_addBlock_ok_iff.2 ⟨hsound, rfl⟩, ?_⟩
      exact addBlock_error_iff.2
        (.inr ⟨hcomplete, (Table.contains_ofList hsound.2).2 ⟨_, ha, hstate⟩, rfl⟩)

theorem foldlM_addEntry_error_iff :
    entries.foldlM addEntry .empty = .error e ↔ EntryFault entries e ∧ entries ≠ [] := by
  rw [Outcome.foldlM_error_iff]
  constructor
  · rintro ⟨before, entry, after, u, rfl, hbefore, hentry⟩
    refine ⟨?_, by simp⟩
    obtain ⟨hsound, rfl⟩ := foldlM_addEntry_ok_iff.1 hbefore
    rcases addEntry_error_iff.1 hentry with ⟨fault, rfl, hbreaks⟩ | ⟨hfilled, htaken, rfl⟩
    · exact .field rfl hsound hbreaks
    · obtain ⟨a, ha, hkey⟩ := (Table.contains_ofList hsound.2).1 htaken
      exact .twice rfl hsound hfilled ha hkey
  · rintro ⟨hnil | ⟨rfl, hsound, hbreaks⟩ | ⟨rfl, hsound, hfilled, ha, hkey⟩, hne⟩
    · exact absurd hnil hne
    · refine ⟨_, _, _, _, rfl, foldlM_addEntry_ok_iff.2 ⟨hsound, rfl⟩, ?_⟩
      exact addEntry_error_iff.2 (.inl ⟨_, rfl, hbreaks⟩)
    · refine ⟨_, _, _, _, rfl, foldlM_addEntry_ok_iff.2 ⟨hsound, rfl⟩, ?_⟩
      exact addEntry_error_iff.2
        (.inr ⟨hfilled, (Table.contains_ofList hsound.2).2 ⟨_, ha, hkey⟩, rfl⟩)

end Lists

/-! The graph of lists that are sound. -/

section Graph

variable {entries : List EntryPoint} {blocks : List Block} {cycles : CyclePolicy} {e : Error}
  {s : State}

/-- Entry points reach what they lead to, and what the blocks that they reach lead to. -/
theorem entered_iff_sought (hbegin : ∀ e ∈ entries, e.state ≠ finished) (hne : s ≠ finished) :
    Entered entries blocks s ↔ Sought entries blocks s := by
  constructor
  · rintro ⟨e, he, hstart, hreach⟩
    rcases ReflTransGen.cases_tail hreach with rfl | ⟨t, ht, _, b, hb, rfl, hleads⟩
    · exact .inl ⟨e, he, rfl⟩
    · exact .inr ⟨b, hb, ⟨e, he, hstart, ht⟩, hleads⟩
  · rintro (⟨e, he, rfl⟩ | ⟨b, hb, ⟨e, he, hstart, hreach⟩, hleads⟩)
    · exact ⟨e, he, hbegin e he, .refl⟩
    · exact ⟨e, he, hstart, hreach.tail ⟨hne, b, hb, rfl, hleads⟩⟩

theorem ne_finished_of_entered (h : Entered entries blocks s) : s ≠ finished := by
  obtain ⟨e, _, hstart, hreach⟩ := h
  exact hreach.preserve (P := (· ≠ finished)) (fun _ _ _ hedge => hedge.1) hstart

/-- A fault that a search meets at a state that an entry point reaches. -/
theorem graphFault_of_fault {entries : EntryPoints} {blocks : Blocks}
    (hbegin : ∀ e ∈ entries.rows, e.state ≠ finished)
    (hentered : Entered entries.rows blocks.rows s) (h : Painter.Fault blocks cycles s e) :
    GraphFault entries.rows blocks.rows cycles e := by
  have hne := ne_finished_of_entered hentered
  rcases h with hnone | ⟨hcycles, hcycle⟩
  · exact .missing hne (Table.get?_eq_none_iff.1 hnone) ((entered_iff_sought hbegin hne).1 hentered)
  · obtain ⟨_, ⟨_, b, hb, rfl, _⟩, _⟩ := TransGen.head'_iff.1 hcycle
    exact .cycle hcycles hb hentered hcycle

theorem checkGraph_error {entries : EntryPoints} {blocks : Blocks}
    (hbegin : ∀ e ∈ entries.rows, e.state ≠ finished)
    (h : blocks.checkGraph entries cycles = .error e) :
    GraphFault entries.rows blocks.rows cycles e := by
  rw [Blocks.checkGraph_eq] at h
  rcases Outcome.bind_error_iff.1 h with hpaint | ⟨p, hpaint, hfind⟩
  · obtain ⟨s, hentered, hfault⟩ := Painter.atRest_start.paintEntries_error hpaint
    exact graphFault_of_fault hbegin hentered hfault
  · obtain ⟨hp, hcoloured⟩ := Painter.atRest_start.paintEntries_ok hpaint
    have hentered : ∀ s, Entered entries.rows blocks.rows s ↔ p.colour? s ≠ none := by
      intro s
      exact ((hcoloured s).trans (or_iff_right (Painter.not_coloured_start s))).symm
    split at hfind
    · rename_i unused hunused
      cases hfind
      obtain ⟨hplain, before, after, hkeys, hbefore⟩ := List.find?_eq_some_iff_append.1 hunused
      have hmem : unused ∈ blocks.keys := List.mem_of_find?_eq_some hunused
      obtain ⟨b, hb, rfl⟩ := List.mem_map.1 hmem
      refine .unused hb ?_ ?_ ?_ ?_
      · rw [hentered, not_not]
        exact Option.isNone_iff_eq_none.1 hplain
      · intro c hc hunreached
        rw [hentered, not_not] at hunreached
        have hascending := blocks.keys_ascending
        have hin : c.state ∈ blocks.keys := List.mem_map_of_mem hc
        rw [hkeys] at hascending hin
        rcases List.mem_append.1 hin with hin | hin
        · have hmet := hbefore _ hin
          simp [hunreached] at hmet
        · rcases List.mem_cons.1 hin with heq | hin
          · exact heq ▸ UInt32.le_refl _
          · have hafter := (List.pairwise_append.1 hascending).2.1
            have hlt := (List.pairwise_cons.1 hafter).1 _ hin
            exact UInt32.le_of_lt (Std.compare_eq_lt.1 hlt)
      · intro s hne hsought
        have hs := (hentered s).1 ((entered_iff_sought hbegin hne).2 hsought)
        obtain ⟨c, hc⟩ := Option.isSome_iff_exists.1 (hp.consistent.vertex s hs).2
        exact ⟨c, Table.get?_eq_some_iff.1 hc⟩
      · intro hcycles c hc hreached hcycle
        exact hp.no_fault ((hentered _).1 hreached) (.cycle hcycles hcycle)
    · cases hfind

/-- Faults depend on the members of the lists alone. -/
theorem GraphFault.congr {entries' : List EntryPoint} {blocks' : List Block}
    (he : ∀ e, e ∈ entries ↔ e ∈ entries') (hb : ∀ b, b ∈ blocks ↔ b ∈ blocks')
    (h : GraphFault entries blocks cycles e) : GraphFault entries' blocks' cycles e := by
  have hedge : Edge blocks = Edge blocks' := edge_congr hb
  have hentered : Entered entries blocks = Entered entries' blocks' := by
    funext s
    simp only [Entered, Reaches, he, hedge]
  have hsought : Sought entries blocks = Sought entries' blocks' := by
    funext s
    simp only [Sought, he, hb, hentered]
  have hcycle : OnCycle blocks = OnCycle blocks' := by
    funext s
    simp only [OnCycle, hedge]
  cases h with
  | missing hne hnone htarget =>
    simp only [hb, hsought] at hnone htarget
    exact .missing hne hnone htarget
  | cycle hcycles hmem hreached hround =>
    simp only [hb, hentered, hcycle] at hmem hreached hround
    exact .cycle hcycles hmem hreached hround
  | unused hmem hunused hleast hlands hacyclic =>
    simp only [hb, hentered, hsought, hcycle] at hmem hunused hleast hlands hacyclic
    exact .unused hmem hunused hleast hlands hacyclic

/-- Lists with a fault in their graph make no script. -/
theorem GraphFault.not_connected (hbegin : ∀ e ∈ entries, e.state ≠ finished)
    (h : GraphFault entries blocks cycles e) : ¬ Connected entries blocks cycles := by
  intro hconnected
  cases h with
  | missing hne hnone htarget =>
    obtain ⟨b, hb, hstate⟩ := hconnected.lands ((entered_iff_sought hbegin hne).2 htarget)
    exact hnone b hb hstate
  | cycle hcycles hb _ hcycle => exact hconnected.acyclic hcycles _ hb hcycle
  | unused hb hunused _ _ _ =>
    obtain ⟨entry, hentry, hreach⟩ := hconnected.used _ hb
    exact hunused ⟨entry, hentry, hbegin entry hentry, hreach⟩

end Graph

section Build

variable {entries : List EntryPoint} {blocks : List Block} {cycles : CyclePolicy} {e : Error}

theorem rejection_of_build (h : build entries blocks cycles = .error e) :
    Rejection entries blocks cycles e := by
  unfold build at h
  rcases Outcome.bind_error_iff.1 h with hblocks | ⟨u, hblocks, h⟩
  · exact .blocks (foldlM_addBlock_error_iff.1 hblocks)
  · obtain ⟨hsound, rfl⟩ := foldlM_addBlock_ok_iff.1 hblocks
    by_cases hnil : entries = []
    · subst hnil
      cases h
      exact .entries hsound (.nothing rfl)
    · simp only [List.isEmpty_iff, hnil, if_false, Outcome.pure_eq] at h
      rcases Outcome.bind_error_iff.1 h with hentries | ⟨v, hentries, h⟩
      · exact .entries hsound (foldlM_addEntry_error_iff.1 hentries).1
      · obtain ⟨hfilled, rfl⟩ := foldlM_addEntry_ok_iff.1 hentries
        rcases Outcome.bind_error_iff.1 h with hgraph | ⟨_, _, h⟩
        · have hmem : ∀ e, e ∈ (Table.ofList entries : EntryPoints).rows ↔ e ∈ entries :=
            fun _ => Table.mem_ofList hfilled.2
          have hbegin : ∀ e ∈ (Table.ofList entries : EntryPoints).rows, e.state ≠ finished :=
            fun e he => (hfilled.1 e ((hmem e).1 he)).2
          have hfault := checkGraph_error hbegin hgraph
          exact .graph hsound hnil hfilled
            (hfault.congr hmem fun _ => Table.mem_ofList hsound.2)
        · cases h

theorem build_of_blockFault (h : BlockFault blocks e) : build entries blocks cycles = .error e := by
  rw [build, foldlM_addBlock_error_iff.2 h, Outcome.error_bind]

theorem build_of_entryFault (hblocks : SoundBlocks blocks) (h : EntryFault entries e) :
    build entries blocks cycles = .error e := by
  rw [build, foldlM_addBlock_ok_iff.2 ⟨hblocks, rfl⟩, Outcome.ok_bind]
  by_cases hnil : entries = []
  · subst hnil
    rcases h with _ | ⟨hsplit, _, _⟩ | ⟨hsplit, _, _, _, _⟩
    · rfl
    · simp at hsplit
    · simp at hsplit
  · simp only [List.isEmpty_iff, hnil, if_false, foldlM_addEntry_error_iff.2 ⟨h, hnil⟩]
    rfl

/-- A graph at fault is rejected for a fault of the graph. -/
theorem build_of_graphFault (hblocks : SoundBlocks blocks) (hne : entries ≠ [])
    (hentries : SoundEntries entries) (h : GraphFault entries blocks cycles e) :
    ∃ f, build entries blocks cycles = .error f ∧ GraphFault entries blocks cycles f := by
  cases hbuild : build entries blocks cycles with
  | ok script =>
    have hwf := (build_ok_iff_wellFormed.1 hbuild).1
    exact absurd hwf.toConnected (h.not_connected hwf.entries_begin)
  | error f =>
    refine ⟨f, rfl, ?_⟩
    cases rejection_of_build hbuild with
    | blocks hfault =>
      have herror := foldlM_addBlock_error_iff.2 hfault
      rw [foldlM_addBlock_ok_iff.2 ⟨hblocks, rfl⟩] at herror
      cases herror
    | entries _ hfault =>
      have herror := foldlM_addEntry_error_iff.2 ⟨hfault, hne⟩
      rw [foldlM_addEntry_ok_iff.2 ⟨hentries, rfl⟩] at herror
      cases herror
    | graph _ _ _ hfault => exact hfault

end Build

/-- Lists are rejected for a fault that they have. The first block that is at fault goes before
all else and the first entry point at fault before the graph, each with exactly its own error;
faults of the graph are told when both lists are sound. -/
theorem build_names_fault (entries : List EntryPoint) (blocks : List Block)
    (cycles : CyclePolicy) (e : Error) :
    (build entries blocks cycles = .error e → Rejection entries blocks cycles e) ∧
      (BlockFault blocks e → build entries blocks cycles = .error e) ∧
      (SoundBlocks blocks → EntryFault entries e → build entries blocks cycles = .error e) ∧
      (SoundBlocks blocks → entries ≠ [] → SoundEntries entries →
        GraphFault entries blocks cycles e →
          ∃ f, build entries blocks cycles = .error f ∧ GraphFault entries blocks cycles f) :=
  ⟨rejection_of_build, build_of_blockFault, build_of_entryFault, build_of_graphFault⟩

/-- Two blocks that lead to each other, a state that is taken twice, an empty key, and a block
that leads to a state without one. -/
theorem build_names_fault_ring :
    let start : List EntryPoint := [⟨"start", 1⟩]
    let name : Block := ⟨1, 2, "Name", "Who are you?", .question⟩
    let again : Block := ⟨2, 1, "Again", "And now?", .question⟩
    let untitled : Block := ⟨2, 0, "", "Bye", .message⟩
    let lost : Block := ⟨2, 9, "Lost", "Where am I?", .message⟩
    (build start [name, again] .reject = .error (.cycleDetected 1) ∧
        Rejection start [name, again] .reject (.cycleDetected 1)) ∧
      (BlockFault [name, name, untitled] (.blockDuplicated 1) ∧
        build [] [name, name, untitled] .reject = .error (.blockDuplicated 1)) ∧
      (SoundBlocks [again, name] ∧ EntryFault [⟨"", 0⟩] (.invalidInput .emptyEntryKey) ∧
        build [⟨"", 0⟩] [again, name] .reject = .error (.invalidInput .emptyEntryKey)) ∧
      (SoundBlocks [name, lost] ∧ SoundEntries start ∧
        GraphFault start [name, lost] .reject (.blockNotFound 9) ∧
        ∃ f, build start [name, lost] .reject = .error f ∧
          GraphFault start [name, lost] .reject f) := by
  intro start name again untitled lost
  have hcycle : build start [name, again] .reject = .error (.cycleDetected 1) := by decide +kernel
  have hone : SoundBlocks [name] := by decide +kernel
  have htwo : SoundBlocks [again, name] := by decide +kernel
  have hlost : SoundBlocks [name, lost] := by decide +kernel
  have hstart : SoundEntries start := by decide +kernel
  have htwice : BlockFault [name, name, untitled] (.blockDuplicated 1) :=
    BlockFault.twice (b := name) rfl hone (hone.1 name (by simp)) List.mem_cons_self rfl
  have hnone : SoundEntries [] := by decide
  have hempty : EntryFault [⟨"", 0⟩] (.invalidInput .emptyEntryKey) :=
    EntryFault.field (e := ⟨"", 0⟩) rfl hnone (.emptyKey rfl)
  have hreached : Entered start [name, lost] 2 := by
    refine ⟨⟨"start", 1⟩, List.mem_cons_self, by decide, .single ⟨by decide, name, ?_, rfl, ?_⟩⟩
    · exact List.mem_cons_self
    · exact .inl rfl
  have hmissing : GraphFault start [name, lost] .reject (.blockNotFound 9) := by
    refine .missing (by decide) (by decide) (.inr ⟨lost, by simp, hreached, .inl rfl⟩)
  exact ⟨⟨hcycle, (build_names_fault _ _ _ _).1 hcycle⟩,
    ⟨htwice, (build_names_fault _ _ _ _).2.1 htwice⟩,
    ⟨htwo, hempty, (build_names_fault _ _ _ _).2.2.1 htwo hempty⟩,
    ⟨hlost, hstart, hmissing,
      (build_names_fault _ _ _ _).2.2.2 hlost (List.cons_ne_nil _ _) hstart hmissing⟩⟩

end Script

end ScriptedChat
