import ScriptedChat.Proofs.Script.Search

/-!
Searches that run to their end. Between two searches every coloured state is black, and no edge
leaves the coloured states; so a search colours what its root reaches, and one that fails met a
state that its root reaches and that is at fault. The list of reachable states and the check of
the graph of a script are described by paths alone.
-/
namespace ScriptedChat.Painter

open Relation ScriptedChat.Graph

variable {blocks : Blocks} {cycles : CyclePolicy}

/-- The invariant between two searches. -/
structure AtRest (blocks : Blocks) (cycles : CyclePolicy) (p : Painter) : Prop where
  consistent : Consistent blocks cycles none p
  stack_eq : p.stack = []

theorem atRest_start : AtRest blocks cycles start := by
  refine ⟨⟨?_, List.nodup_nil, ?_, trivial, ?_, ?_⟩, rfl⟩
  · simp [stacked, start, colour?]
  · simp [Coloured, start, colour?]
  · simp [start, colour?]
  · simp [start, colour?]

theorem not_coloured_start (s : State) : ¬ start.Coloured s := by
  simp [Coloured, start, colour?]

theorem AtRest.black {p : Painter} (h : AtRest blocks cycles p) {s : State} (hs : p.Coloured s) :
    p.colour? s = some .black := by
  rcases coloured_iff.1 hs with hgrey | hblack
  · have hin := (h.consistent.grey_iff s).1 hgrey
    simp [stacked, h.stack_eq] at hin
  · exact hblack

/-- Between two searches no edge leaves the coloured states. -/
theorem AtRest.closed {p : Painter} (h : AtRest blocks cycles p) {s t : State}
    (hs : p.Coloured s) (hst : Edge blocks.rows s t) : p.Coloured t := by
  obtain ⟨b, hb, ht⟩ := exists_block_of_edge hst
  rcases h.consistent.black s b (h.black hs) hb t ht with hfin | hblack | ⟨_, hgrey⟩
  · exact absurd hfin hst.1
  · exact coloured_iff.2 (Or.inr hblack)
  · exact coloured_iff.2 (Or.inl hgrey)

theorem AtRest.no_fault {p : Painter} (h : AtRest blocks cycles p) {s : State} {e : Error}
    (hs : p.Coloured s) : ¬ Fault blocks cycles s e := by
  rintro (hnone | ⟨hcycles, hcycle⟩)
  · have hsome := (h.consistent.vertex s hs).2
    rw [hnone] at hsome
    cases hsome
  · exact h.consistent.acyclic hcycles s (h.black hs) hcycle

/-- A search may look at any root: nothing on the stack waits for it. -/
theorem AtRest.look {p : Painter} (h : AtRest blocks cycles p) (root : State) :
    Consistent blocks cycles (some root) p := by
  refine ⟨h.consistent.grey_iff, h.consistent.nodup, h.consistent.vertex, ?_,
    h.consistent.black, h.consistent.acyclic⟩
  rw [h.stack_eq]
  exact trivial

/-- What a search from a root may colour. -/
def Found (blocks : Blocks) (p : Painter) (root s : State) : Prop :=
  p.Coloured s ∨ (root ≠ finished ∧ Reaches blocks.rows root s)

theorem AtRest.found_edge {p : Painter} {root s t : State} (h : AtRest blocks cycles p)
    (hs : Found blocks p root s) (hst : Edge blocks.rows s t) : Found blocks p root t := by
  rcases hs with hs | ⟨hne, hs⟩
  · exact Or.inl (h.closed hs hst)
  · exact Or.inr ⟨hne, hs.tail hst⟩

/-- What holds at every turn of a search from a root. -/
structure Searching (blocks : Blocks) (cycles : CyclePolicy) (p : Painter) (root : State)
    (q : Painter) : Prop where
  consistent : Consistent blocks cycles none q
  kept : ∀ s, p.Coloured s → q.Coloured s
  begun : root ≠ finished → q.Coloured root
  found : ∀ s, q.Coloured s → Found blocks p root s

theorem AtRest.searching {p q : Painter} {root : State} (h : AtRest blocks cycles p)
    (hok : Painter.discover blocks cycles root p = .ok q) :
    Searching blocks cycles p root q := by
  obtain ⟨hq, hpq, hroot, hnew⟩ := (h.look root).discover hok
  refine ⟨hq, hpq.2, hroot, ?_⟩
  intro s hs
  rcases hnew s hs with hold | ⟨rfl, hne⟩
  · exact Or.inl hold
  · exact Or.inr ⟨hne, ReflTransGen.refl⟩

theorem Searching.turn {p q r : Painter} {root : State} (h : AtRest blocks cycles p)
    (hq : Searching blocks cycles p root q) (hok : Painter.turn blocks cycles q = .ok r) :
    Searching blocks cycles p root r := by
  obtain ⟨hr, hqr, hnew⟩ := hq.consistent.turn hok
  refine ⟨hr, fun s hs => hqr.2 s (hq.kept s hs), fun hne => hqr.2 root (hq.begun hne), ?_⟩
  intro t ht
  rcases hnew t ht with hold | ⟨s, hs, hst⟩
  · exact hq.found t hold
  · exact h.found_edge (hq.found s hs) hst

/-- A search that does not fail colours what the root reaches, and nothing else. -/
theorem AtRest.paintFrom_ok {p q : Painter} {root : State} (h : AtRest blocks cycles p)
    (hok : paintFrom blocks cycles root p = .ok q) :
    AtRest blocks cycles q ∧ ∀ s, q.Coloured s ↔ Found blocks p root s := by
  unfold paintFrom at hok
  cases hdiscover : Painter.discover blocks cycles root p with
  | error e =>
    rw [hdiscover] at hok
    cases hok
  | ok r =>
    rw [hdiscover] at hok
    obtain ⟨hq, hstack⟩ := run_ok (fun _ _ hq hturn => hq.turn h hturn) (h.searching hdiscover) hok
    have hrest : AtRest blocks cycles q := ⟨hq.consistent, hstack⟩
    refine ⟨hrest, fun s => ⟨hq.found s, ?_⟩⟩
    rintro (hs | ⟨hne, hs⟩)
    · exact hq.kept s hs
    · exact Reaches.preserve (fun _ _ hu huv => hrest.closed hu huv) hs (hq.begun hne)

/-- A search that fails met a state that is reached from the root and that is at fault. -/
theorem AtRest.paintFrom_error {p : Painter} {root : State} {e : Error}
    (h : AtRest blocks cycles p) (herr : paintFrom blocks cycles root p = .error e) :
    root ≠ finished ∧ ∃ t, Reaches blocks.rows root t ∧ Fault blocks cycles t e := by
  unfold paintFrom at herr
  cases hdiscover : Painter.discover blocks cycles root p with
  | error e' =>
    rw [hdiscover] at herr
    cases herr
    obtain ⟨hne, hfault⟩ := (h.look root).discover_fault hdiscover
    exact ⟨hne, root, ReflTransGen.refl, hfault⟩
  | ok r =>
    rw [hdiscover] at herr
    obtain ⟨q, hq, hturn⟩ :=
      run_error (fun _ _ hq hturn => hq.turn h hturn) (h.searching hdiscover) herr
    obtain ⟨s, t, hs, hst, hfault⟩ := hq.consistent.turn_fault hturn
    rcases hq.found s hs with hold | ⟨hne, hreach⟩
    · exact absurd hfault (h.no_fault (h.closed hold hst))
    · exact ⟨hne, t, hreach.tail hst, hfault⟩

/-! One search for each entry point, over the same marks. -/

/-- The searches from all entry points of a list. -/
def paintEntries (blocks : Blocks) (cycles : CyclePolicy) (entries : List EntryPoint)
    (p : Painter) : Except Error Painter :=
  entries.foldlM (fun p e => paintFrom blocks cycles e.state p) p

theorem AtRest.paintEntries_ok {entries : List EntryPoint} {p q : Painter}
    (h : AtRest blocks cycles p) (hok : paintEntries blocks cycles entries p = .ok q) :
    AtRest blocks cycles q ∧ ∀ s, q.Coloured s ↔
      p.Coloured s ∨ Entered entries blocks.rows s := by
  induction entries generalizing p with
  | nil =>
    cases hok
    exact ⟨h, fun s => by simp [Entered]⟩
  | cons e rest ih =>
    rw [paintEntries, List.foldlM_cons] at hok
    cases hpaint : paintFrom blocks cycles e.state p with
    | error e' =>
      rw [hpaint] at hok
      cases hok
    | ok r =>
      rw [hpaint] at hok
      obtain ⟨hr, hcoloured⟩ := h.paintFrom_ok hpaint
      obtain ⟨hq, hrest⟩ := ih hr hok
      refine ⟨hq, fun s => ?_⟩
      rw [hrest s, hcoloured s, Found, entered_cons, or_assoc]

theorem AtRest.paintEntries_error {entries : List EntryPoint} {p : Painter} {e : Error}
    (h : AtRest blocks cycles p) (herr : paintEntries blocks cycles entries p = .error e) :
    ∃ t, Entered entries blocks.rows t ∧ Fault blocks cycles t e := by
  induction entries generalizing p with
  | nil => cases herr
  | cons entry rest ih =>
    rw [paintEntries, List.foldlM_cons] at herr
    cases hpaint : paintFrom blocks cycles entry.state p with
    | error e' =>
      rw [hpaint] at herr
      cases herr
      obtain ⟨hne, t, ht, hfault⟩ := h.paintFrom_error hpaint
      exact ⟨t, ⟨entry, List.mem_cons_self, hne, ht⟩, hfault⟩
    | ok r =>
      rw [hpaint] at herr
      obtain ⟨t, ht, hfault⟩ := ih (h.paintFrom_ok hpaint).1 herr
      exact ⟨t, entered_cons.2 (Or.inr ht), hfault⟩

end ScriptedChat.Painter

namespace ScriptedChat.Blocks

open Relation ScriptedChat.Graph Painter

variable {blocks : Blocks}

/-- The states that are listed are those that the root reaches, and all of them are blocks. -/
theorem reachableFrom_ok {root : State} {reached : List State}
    (h : blocks.reachableFrom root = .ok reached) :
    (∀ s, s ∈ reached ↔ root ≠ finished ∧ Reaches blocks.rows root s) ∧
      ∀ s ∈ reached, s ≠ finished ∧ (blocks.get? s).isSome := by
  unfold reachableFrom at h
  cases hpaint : paintFrom blocks .permissive root start with
  | error e =>
    rw [hpaint] at h
    cases h
  | ok p =>
    rw [hpaint] at h
    cases h
    obtain ⟨hp, hcoloured⟩ := (atRest_start : AtRest blocks .permissive start).paintFrom_ok hpaint
    constructor
    · intro s
      rw [mem_painted, hcoloured s, Found]
      exact or_iff_right (not_coloured_start s)
    · intro s hs
      exact hp.consistent.vertex s (mem_painted.1 hs)

/-- Cycles do not make the list fail, missing blocks do. -/
theorem reachableFrom_error {root : State} {e : Error} (h : blocks.reachableFrom root = .error e) :
    root ≠ finished ∧ ∃ s, Reaches blocks.rows root s ∧ blocks.get? s = none ∧
      e = .blockNotFound s := by
  unfold reachableFrom at h
  cases hpaint : paintFrom blocks .permissive root start with
  | error e' =>
    rw [hpaint] at h
    cases h
    obtain ⟨hne, s, hs, hnone | ⟨hcycles, _⟩⟩ := atRest_start.paintFrom_error hpaint
    · exact ⟨hne, s, hs, hnone, rfl⟩
    · cases hcycles
  | ok p =>
    rw [hpaint] at h
    cases h

theorem checkGraph_eq {entries : EntryPoints} {cycles : CyclePolicy} :
    blocks.checkGraph entries cycles = (do
      let painter ← paintEntries blocks cycles entries.rows start
      match blocks.keys.find? fun s => (painter.colour? s).isNone with
      | some unused => .error (.unusedBlock unused)
      | none => .ok ()) := rfl

/-- The graph of a script is accepted when no state that an entry point reaches is at fault,
and every block is reached. -/
theorem checkGraph_ok_iff {entries : EntryPoints} {cycles : CyclePolicy} :
    blocks.checkGraph entries cycles = .ok () ↔
      (∀ s, Entered entries.rows blocks.rows s → ∀ e, ¬ Fault blocks cycles s e) ∧
        ∀ b ∈ blocks.rows, Entered entries.rows blocks.rows b.state := by
  rw [checkGraph_eq]
  cases hpaint : paintEntries blocks cycles entries.rows start with
  | error e =>
    obtain ⟨t, ht, hfault⟩ := atRest_start.paintEntries_error hpaint
    constructor
    · intro h
      cases h
    · rintro ⟨hsound, _⟩
      exact absurd hfault (hsound t ht e)
  | ok p =>
    obtain ⟨hp, hcoloured⟩ := atRest_start.paintEntries_ok hpaint
    have hentered : ∀ s, p.Coloured s ↔ Entered entries.rows blocks.rows s := by
      intro s
      rw [hcoloured s]
      exact or_iff_right (not_coloured_start s)
    have hsound : ∀ s, Entered entries.rows blocks.rows s → ∀ e, ¬ Fault blocks cycles s e :=
      fun s hs _ => hp.no_fault ((hentered s).2 hs)
    show (match blocks.keys.find? fun s => (p.colour? s).isNone with
      | some unused => Except.error (Error.unusedBlock unused)
      | none => .ok ()) = .ok () ↔ _
    cases hfind : blocks.keys.find? fun s => (p.colour? s).isNone with
    | some s =>
      constructor
      · intro h
        cases h
      · rintro ⟨_, hused⟩
        obtain ⟨b, hb, rfl⟩ := List.mem_map.1 (List.mem_of_find?_eq_some hfind)
        have hnone : p.colour? b.state = none := by simpa using List.find?_some hfind
        exact absurd hnone ((hentered b.state).2 (hused b hb))
    | none =>
      refine iff_of_true rfl ⟨hsound, ?_⟩
      intro b hb
      have hnone := List.find?_eq_none.1 hfind b.state (List.mem_map_of_mem hb)
      exact (hentered b.state).1 (by simpa [Coloured, Option.isNone_iff_eq_none] using hnone)

end ScriptedChat.Blocks
