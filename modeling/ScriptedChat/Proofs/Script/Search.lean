import ScriptedChat.Proofs.Script.Graph

/-!
What the depth-first search keeps and what it finds. The grey states are those on the stack,
each one a successor of the state below it, and the targets that a stacked state has looked at
are done with, but for the one that is being looked at. A black state has only targets that are
done with. Where cycles are rejected a target is done with once it is black, so no black state
lies on a cycle. After a search that did not fail, the coloured states are those that were
coloured before and those that the root reaches.
-/
namespace ScriptedChat.Painter

open Relation ScriptedChat.Graph

variable {blocks : Blocks} {cycles : CyclePolicy}

def Coloured (p : Painter) (s : State) : Prop := p.colour? s ≠ none

/-- The states on the stack, the top first. -/
def stacked (p : Painter) : List State := p.stack.map Prod.fst

/-- A target that no later turn has to look at again. -/
def Settled (cycles : CyclePolicy) (p : Painter) (t : State) : Prop :=
  t = finished ∨ p.colour? t = some .black ∨
    (cycles = .permissive ∧ p.colour? t = some .grey)

/-- A stacked state, its remaining targets and the one that is being looked at, if any. -/
def Frame (blocks : Blocks) (cycles : CyclePolicy) (p : Painter) (current : Option State)
    (e : State × List State) : Prop :=
  ∃ b done, blocks.get? e.1 = some b ∧ b.targets = done ++ e.2 ∧
    (∀ t ∈ done, Settled cycles p t ∨ current = some t) ∧ ∀ t, current = some t → t ∈ done

/-- Every stacked state looks at the one above it, and the top at `current`. -/
def Frames (blocks : Blocks) (cycles : CyclePolicy) (p : Painter) :
    Option State → List (State × List State) → Prop
  | _, [] => True
  | current, e :: below =>
    Frame blocks cycles p current e ∧ Frames blocks cycles p (some e.1) below

/-- The invariant of the search while the state on top looks at `current`. -/
structure Consistent (blocks : Blocks) (cycles : CyclePolicy) (current : Option State)
    (p : Painter) : Prop where
  grey_iff : ∀ s, p.colour? s = some .grey ↔ s ∈ p.stacked
  nodup : p.stacked.Nodup
  vertex : ∀ s, p.Coloured s → s ≠ finished ∧ (blocks.get? s).isSome
  frames : Frames blocks cycles p current p.stack
  black : ∀ s b, p.colour? s = some .black → blocks.get? s = some b →
    ∀ t ∈ b.targets, Settled cycles p t
  acyclic : cycles = .reject → ∀ s, p.colour? s = some .black → ¬ OnCycle blocks.rows s

theorem coloured_iff {p : Painter} {s : State} :
    p.Coloured s ↔ p.colour? s = some .grey ∨ p.colour? s = some .black := by
  unfold Coloured
  cases h : p.colour? s with
  | none => simp
  | some c => cases c <;> simp

theorem mem_painted {p : Painter} {s : State} : s ∈ p.painted ↔ p.Coloured s := by
  rw [painted, Table.mem_keys_iff, Coloured, colour?, ne_eq, Option.map_eq_none_iff,
    Option.isSome_iff_ne_none]

/-- How the marks may change while the stack is worked on. -/
def Advances (p q : Painter) : Prop :=
  (∀ s, p.colour? s = some .black → q.colour? s = some .black) ∧
  ∀ s, p.Coloured s → q.Coloured s

theorem Settled.advance {p q : Painter} {t : State} (hpq : Advances p q)
    (h : Settled cycles p t) : Settled cycles q t := by
  rcases h with h | h | ⟨hcycles, h⟩
  · exact Or.inl h
  · exact Or.inr (Or.inl (hpq.1 t h))
  · have hcoloured : q.Coloured t := hpq.2 t (coloured_iff.2 (Or.inl h))
    rcases coloured_iff.1 hcoloured with hgrey | hblack
    · exact Or.inr (Or.inr ⟨hcycles, hgrey⟩)
    · exact Or.inr (Or.inl hblack)

theorem Frame.advance {p q : Painter} {current : Option State} {e : State × List State}
    (hpq : Advances p q) (h : Frame blocks cycles p current e) :
    Frame blocks cycles q current e := by
  obtain ⟨b, done, hb, htargets, hdone, hcurrent⟩ := h
  refine ⟨b, done, hb, htargets, ?_, hcurrent⟩
  intro t ht
  exact (hdone t ht).imp_left (Settled.advance hpq)

/-- The state that was looked at is done with once it is settled. -/
theorem Frame.settle {p : Painter} {t : State} {e : State × List State}
    (ht : Settled cycles p t) (h : Frame blocks cycles p (some t) e) :
    Frame blocks cycles p none e := by
  obtain ⟨b, done, hb, htargets, hdone, _⟩ := h
  refine ⟨b, done, hb, htargets, ?_, by simp⟩
  intro u hu
  rcases hdone u hu with hsettled | heq
  · exact Or.inl hsettled
  · cases heq
    exact Or.inl ht

theorem Frames.advance {p q : Painter} {current : Option State}
    {stack : List (State × List State)} (hpq : Advances p q)
    (h : Frames blocks cycles p current stack) : Frames blocks cycles q current stack := by
  induction stack generalizing current with
  | nil => exact h
  | cons e below ih => exact ⟨h.1.advance hpq, ih h.2⟩

theorem Frames.settle {p : Painter} {t : State} {stack : List (State × List State)}
    (ht : Settled cycles p t) (h : Frames blocks cycles p (some t) stack) :
    Frames blocks cycles p none stack := by
  cases stack with
  | nil => exact h
  | cons e below => exact ⟨h.1.settle ht, h.2⟩

/-- From every stacked state a path leads along the stack to the state that is looked at. -/
theorem Frames.path {p : Painter} {t : State} {stack : List (State × List State)}
    (h : Frames blocks cycles p (some t) stack) (ht : t ≠ finished)
    (hstack : ∀ s ∈ stack.map Prod.fst, s ≠ finished) :
    ∀ s ∈ stack.map Prod.fst, TransGen (Edge blocks.rows) s t := by
  induction stack generalizing t with
  | nil => simp
  | cons e below ih =>
    obtain ⟨⟨b, done, hb, htargets, _, hcurrent⟩, hbelow⟩ := h
    have hmem : t ∈ b.targets := by
      rw [htargets]
      exact List.mem_append_left _ (hcurrent t rfl)
    have hedge : Edge blocks.rows e.1 t := edge_of_mem_targets hb hmem ht
    intro s hs
    rcases List.mem_cons.1 hs with rfl | hs
    · exact TransGen.single hedge
    · have he : e.1 ≠ finished := hstack e.1 List.mem_cons_self
      have hrest : ∀ u ∈ below.map Prod.fst, u ≠ finished := by
        intro u hu
        exact hstack u (List.mem_cons_of_mem _ hu)
      exact TransGen.tail (ih hbelow he hrest s hs) hedge

/-! A mark on a state leaves all others as they were. -/

theorem colour?_mark_self (p : Painter) (s : State) (c : Colour)
    (stack : List (State × List State)) :
    (Painter.mk (p.marks.insert ⟨s, c⟩) stack).colour? s = some c := by
  rw [colour?_mark, if_pos rfl]

theorem colour?_mark_of_ne (p : Painter) {s t : State} (h : s ≠ t) (c : Colour)
    (stack : List (State × List State)) :
    (Painter.mk (p.marks.insert ⟨s, c⟩) stack).colour? t = p.colour? t := by
  rw [colour?_mark, if_neg h]

/-- A fresh mark and a mark in black both advance. -/
theorem advances_mark (p : Painter) (s : State) (c : Colour) (stack : List (State × List State))
    (h : c = .black ∨ p.colour? s = none) :
    Advances p ⟨p.marks.insert ⟨s, c⟩, stack⟩ := by
  constructor
  · intro t ht
    by_cases hst : s = t
    · subst hst
      rcases h with rfl | hnone
      · exact colour?_mark_self p s _ stack
      · rw [hnone] at ht
        cases ht
    · rw [colour?_mark_of_ne p hst]
      exact ht
  · intro t ht
    unfold Coloured
    rw [colour?_mark]
    split
    · simp
    · exact ht

/-- Leaving the top: it turns black, and the state below has one more settled target. -/
theorem Consistent.leave {p : Painter} {s : State} {below : List (State × List State)}
    (h : Consistent blocks cycles none p) (hstack : p.stack = (s, []) :: below) :
    Consistent blocks cycles none ⟨p.marks.insert ⟨s, .black⟩, below⟩ := by
  have hpq : Advances p ⟨p.marks.insert ⟨s, .black⟩, below⟩ :=
    advances_mark p s .black below (Or.inl rfl)
  have hframes := h.frames
  rw [hstack] at hframes
  obtain ⟨⟨b, done, hb, htargets, hdone, _⟩, hbelow⟩ := hframes
  have hstacked : p.stacked = s :: below.map Prod.fst := by rw [stacked, hstack, List.map_cons]
  have hnodup := h.nodup
  rw [hstacked, List.nodup_cons] at hnodup
  have hgrey : p.colour? s = some .grey := (h.grey_iff s).2 (by simp [hstacked])
  have htargets_settled : ∀ t ∈ b.targets, Settled cycles p t := by
    intro t ht
    rw [htargets, List.append_nil] at ht
    exact (hdone t ht).resolve_right (by simp)
  have hself : (Painter.mk (p.marks.insert ⟨s, .black⟩) below).colour? s = some .black :=
    colour?_mark_self p s .black below
  have hother : ∀ t, s ≠ t →
      (Painter.mk (p.marks.insert ⟨s, .black⟩) below).colour? t = p.colour? t :=
    fun t hst => colour?_mark_of_ne p hst .black below
  refine ⟨?_, hnodup.2, ?_, ?_, ?_, ?_⟩
  · intro t
    by_cases hst : s = t
    · subst hst
      simp [hself, stacked, hnodup.1]
    · rw [hother t hst, h.grey_iff t, hstacked, List.mem_cons]
      simp [stacked, Ne.symm hst]
  · intro t ht
    by_cases hst : s = t
    · subst hst
      exact h.vertex s (coloured_iff.2 (Or.inl hgrey))
    · unfold Coloured at ht
      rw [hother t hst] at ht
      exact h.vertex t ht
  · exact (hbelow.advance hpq).settle (Or.inr (Or.inl hself))
  · intro t c ht hc u hu
    by_cases hst : s = t
    · subst hst
      rw [hb] at hc
      cases hc
      exact (htargets_settled u hu).advance hpq
    · rw [hother t hst] at ht
      exact (h.black t c ht hc u hu).advance hpq
  · intro hreject t ht hcycle
    by_cases hst : s = t
    · subst hst
      -- The cycle leaves the state for a black one, and black states lead to black states only.
      have hclosed : ∀ u v, p.colour? u = some .black → Edge blocks.rows u v →
          p.colour? v = some .black := by
        intro u v hu huv
        obtain ⟨c, hc, hv⟩ := exists_block_of_edge huv
        rcases h.black u c hu hc v hv with hfin | hblack | ⟨hperm, _⟩
        · exact absurd hfin huv.1
        · exact hblack
        · rw [hreject] at hperm
          cases hperm
      obtain ⟨t, hedge, hrest⟩ := TransGen.head'_iff.1 hcycle
      obtain ⟨c, hc, ht⟩ := exists_block_of_edge hedge
      rw [hb] at hc
      cases hc
      have hblack : p.colour? t = some .black := by
        rcases htargets_settled t ht with hfin | hblack | ⟨hperm, _⟩
        · exact absurd hfin hedge.1
        · exact hblack
        · rw [hreject] at hperm
          cases hperm
      have hself_black := Reaches.preserve (P := (p.colour? · = some .black)) hclosed hrest hblack
      rw [hgrey] at hself_black
      cases hself_black
    · rw [hother t hst] at ht
      exact h.acyclic hreject t ht hcycle

/-- Looking at the next target of the top. -/
theorem Consistent.look {p : Painter} {s t : State} {targets : List State}
    {below : List (State × List State)} (h : Consistent blocks cycles none p)
    (hstack : p.stack = (s, t :: targets) :: below) :
    Consistent blocks cycles (some t) ⟨p.marks, (s, targets) :: below⟩ := by
  have hframes := h.frames
  rw [hstack] at hframes
  obtain ⟨⟨b, done, hb, htargets, hdone, _⟩, hbelow⟩ := hframes
  have hstacked : p.stacked = stacked ⟨p.marks, (s, targets) :: below⟩ := by
    simp [stacked, hstack]
  have hpq : Advances p ⟨p.marks, (s, targets) :: below⟩ := ⟨fun _ hu => hu, fun _ hu => hu⟩
  refine ⟨fun u => hstacked ▸ h.grey_iff u, hstacked ▸ h.nodup, h.vertex, ?_, h.black, h.acyclic⟩
  refine ⟨⟨b, done ++ [t], hb, by simp [htargets], ?_, by simp⟩, hbelow.advance hpq⟩
  intro u hu
  rcases List.mem_append.1 hu with hu | hu
  · exact Or.inl ((hdone u hu).resolve_right (by simp))
  · exact Or.inr (congrArg some (List.mem_singleton.1 hu).symm)

/-- The state that is looked at is done with when it is settled. -/
theorem Consistent.settle {p : Painter} {t : State} (h : Consistent blocks cycles (some t) p)
    (ht : Settled cycles p t) : Consistent blocks cycles none p :=
  ⟨h.grey_iff, h.nodup, h.vertex, h.frames.settle ht, h.black, h.acyclic⟩

/-- A fresh block is marked in grey and comes on top. -/
theorem Consistent.push {p : Painter} {t : State} {b : Block}
    (h : Consistent blocks cycles (some t) p) (hne : t ≠ finished) (hb : blocks.get? t = some b)
    (hfresh : p.colour? t = none) :
    Consistent blocks cycles none ⟨p.marks.insert ⟨t, .grey⟩, (t, b.targets) :: p.stack⟩ := by
  have hpq : Advances p ⟨p.marks.insert ⟨t, .grey⟩, (t, b.targets) :: p.stack⟩ :=
    advances_mark p t .grey _ (Or.inr hfresh)
  have hself := colour?_mark_self p t .grey ((t, b.targets) :: p.stack)
  have hother : ∀ u, t ≠ u →
      (Painter.mk (p.marks.insert ⟨t, .grey⟩) ((t, b.targets) :: p.stack)).colour? u =
        p.colour? u :=
    fun u htu => colour?_mark_of_ne p htu .grey _
  have hblack : ∀ u,
      (Painter.mk (p.marks.insert ⟨t, .grey⟩) ((t, b.targets) :: p.stack)).colour? u =
        some .black → p.colour? u = some .black := by
    intro u hu
    by_cases htu : t = u
    · subst htu
      rw [hself] at hu
      cases hu
    · rwa [hother u htu] at hu
  have hnotin : t ∉ p.stacked := by
    intro hin
    have hgrey := (h.grey_iff t).2 hin
    rw [hfresh] at hgrey
    cases hgrey
  refine ⟨?_, List.nodup_cons.2 ⟨hnotin, h.nodup⟩, ?_, ?_, ?_, ?_⟩
  · intro u
    by_cases htu : t = u
    · subst htu
      simp [hself, stacked]
    · rw [hother u htu, h.grey_iff u]
      simp [stacked, Ne.symm htu]
  · intro u hu
    by_cases htu : t = u
    · subst htu
      exact ⟨hne, by simp [hb]⟩
    · unfold Coloured at hu
      rw [hother u htu] at hu
      exact h.vertex u hu
  · exact ⟨⟨b, [], hb, rfl, by simp, by simp⟩, h.frames.advance hpq⟩
  · intro u c hu hc v hv
    exact (h.black u c (hblack u hu) hc v hv).advance hpq
  · intro hreject u hu
    exact h.acyclic hreject u (hblack u hu)

/-! One turn, and what it can find wrong. -/

theorem discover_ok {p q : Painter} {t : State} (h : discover blocks cycles t p = .ok q) :
    (q = p ∧ Settled cycles p t) ∨
      (t ≠ finished ∧ p.colour? t = none ∧ ∃ b, blocks.get? t = some b ∧
        q = ⟨p.marks.insert ⟨t, .grey⟩, (t, b.targets) :: p.stack⟩) := by
  unfold discover at h
  split at h
  · rename_i hfin
    cases h
    exact Or.inl ⟨rfl, Or.inl hfin⟩
  · rename_i hne
    split at h
    · cases h
    · rename_i b hb
      split at h
      · rename_i hfresh
        cases h
        exact Or.inr ⟨hne, hfresh, b, hb, rfl⟩
      · rename_i hgrey
        split at h
        · cases h
        · rename_i hcycles
          cases h
          have hperm : cycles = .permissive := by
            cases cycles with
            | permissive => rfl
            | reject => exact absurd rfl hcycles
          exact Or.inl ⟨rfl, Or.inr (Or.inr ⟨hperm, hgrey⟩)⟩
      · rename_i hblack
        cases h
        exact Or.inl ⟨rfl, Or.inr (Or.inl hblack)⟩

theorem discover_error {p : Painter} {t : State} {e : Error}
    (h : discover blocks cycles t p = .error e) :
    t ≠ finished ∧ ((blocks.get? t = none ∧ e = .blockNotFound t) ∨
      (cycles = .reject ∧ p.colour? t = some .grey ∧ e = .cycleDetected t)) := by
  unfold discover at h
  split at h
  · cases h
  · rename_i hne
    refine ⟨hne, ?_⟩
    split at h
    · rename_i hnone
      cases h
      exact Or.inl ⟨hnone, rfl⟩
    · split at h
      · cases h
      · rename_i hgrey
        split at h
        · rename_i hcycles
          cases h
          exact Or.inr ⟨hcycles, hgrey, rfl⟩
        · cases h
      · cases h

theorem Consistent.discover {p q : Painter} {t : State} (h : Consistent blocks cycles (some t) p)
    (hok : discover blocks cycles t p = .ok q) :
    Consistent blocks cycles none q ∧ Advances p q ∧ (t ≠ finished → q.Coloured t) ∧
      ∀ s, q.Coloured s → p.Coloured s ∨ (s = t ∧ t ≠ finished) := by
  rcases discover_ok hok with ⟨rfl, hsettled⟩ | ⟨hne, hfresh, b, hb, rfl⟩
  · refine ⟨h.settle hsettled, ⟨fun _ hs => hs, fun _ hs => hs⟩, ?_, fun _ hs => Or.inl hs⟩
    intro hne
    rcases hsettled with hfin | hblack | ⟨_, hgrey⟩
    · exact absurd hfin hne
    · exact coloured_iff.2 (Or.inr hblack)
    · exact coloured_iff.2 (Or.inl hgrey)
  · refine ⟨h.push hne hb hfresh, advances_mark p t .grey _ (Or.inr hfresh), ?_, ?_⟩
    · intro _
      exact coloured_iff.2 (Or.inl (colour?_mark_self p t .grey _))
    · intro s hs
      by_cases hts : t = s
      · exact Or.inr ⟨hts.symm, hne⟩
      · unfold Coloured at hs
        rw [colour?_mark_of_ne p hts] at hs
        exact Or.inl hs

/-- The state on top has a mark, and its next target is a successor. -/
theorem Consistent.top {p : Painter} {s t : State} {targets : List State}
    {below : List (State × List State)} (h : Consistent blocks cycles none p)
    (hstack : p.stack = (s, t :: targets) :: below) :
    p.Coloured s ∧ (t ≠ finished → Edge blocks.rows s t) := by
  have hs : p.Coloured s := by
    refine coloured_iff.2 (Or.inl ((h.grey_iff s).2 ?_))
    simp [stacked, hstack]
  refine ⟨hs, fun hne => ?_⟩
  have hframes := h.frames
  rw [hstack] at hframes
  obtain ⟨⟨b, done, hb, htargets, _, _⟩, _⟩ := hframes
  refine edge_of_mem_targets hb ?_ hne
  rw [htargets]
  exact List.mem_append_right _ List.mem_cons_self

theorem Consistent.turn {p q : Painter} (h : Consistent blocks cycles none p)
    (hok : turn blocks cycles p = .ok q) :
    Consistent blocks cycles none q ∧ Advances p q ∧
      ∀ t, q.Coloured t → p.Coloured t ∨ ∃ s, p.Coloured s ∧ Edge blocks.rows s t := by
  unfold Painter.turn at hok
  split at hok
  · cases hok
    exact ⟨h, ⟨fun _ ht => ht, fun _ ht => ht⟩, fun _ ht => Or.inl ht⟩
  · rename_i s below hstack
    cases hok
    refine ⟨h.leave hstack, advances_mark p s .black below (Or.inl rfl), ?_⟩
    intro t ht
    by_cases hst : s = t
    · subst hst
      refine Or.inl (coloured_iff.2 (Or.inl ((h.grey_iff s).2 ?_)))
      simp [stacked, hstack]
    · unfold Coloured at ht
      rw [colour?_mark_of_ne p hst] at ht
      exact Or.inl ht
  · rename_i s t targets below hstack
    obtain ⟨hq, hpq, _, hnew⟩ := (h.look hstack).discover hok
    refine ⟨hq, hpq, ?_⟩
    intro u hu
    rcases hnew u hu with hold | ⟨rfl, hne⟩
    · exact Or.inl hold
    · obtain ⟨hs, hedge⟩ := h.top hstack
      exact Or.inr ⟨s, hs, hedge hne⟩

/-- What a search can find wrong about a state that it comes to look at. -/
inductive Fault (blocks : Blocks) (cycles : CyclePolicy) (t : State) : Error → Prop
  | missing (hnone : blocks.get? t = none) : Fault blocks cycles t (.blockNotFound t)
  | cycle (hcycles : cycles = .reject) (hcycle : OnCycle blocks.rows t) :
      Fault blocks cycles t (.cycleDetected t)

theorem Consistent.discover_fault {p : Painter} {t : State} {e : Error}
    (h : Consistent blocks cycles (some t) p)
    (herr : Painter.discover blocks cycles t p = .error e) :
    t ≠ finished ∧ Fault blocks cycles t e := by
  obtain ⟨hne, ⟨hnone, rfl⟩ | ⟨hcycles, hgrey, rfl⟩⟩ := discover_error herr
  · exact ⟨hne, .missing hnone⟩
  · have hstack : ∀ s ∈ p.stacked, s ≠ finished := by
      intro s hs
      exact (h.vertex s (coloured_iff.2 (Or.inl ((h.grey_iff s).2 hs)))).1
    exact ⟨hne, .cycle hcycles (h.frames.path hne hstack t ((h.grey_iff t).1 hgrey))⟩

theorem Consistent.turn_fault {p : Painter} {e : Error} (h : Consistent blocks cycles none p)
    (herr : Painter.turn blocks cycles p = .error e) :
    ∃ s t, p.Coloured s ∧ Edge blocks.rows s t ∧ Fault blocks cycles t e := by
  unfold Painter.turn at herr
  split at herr
  · cases herr
  · cases herr
  · rename_i s t targets below hstack
    obtain ⟨hs, hedge⟩ := h.top hstack
    obtain ⟨hne, hfault⟩ := (h.look hstack).discover_fault herr
    exact ⟨s, t, hs, hedge hne, hfault⟩

/-! Taking turns until the stack is empty. -/

theorem run_of_empty {p : Painter} (hstack : p.stack = []) : run blocks cycles p = .ok p := by
  rw [run, dif_pos hstack]

theorem run_of_error {p : Painter} {e : Error} (hbusy : p.stack ≠ [])
    (he : turn blocks cycles p = .error e) : run blocks cycles p = .error e := by
  rw [run, dif_neg hbusy]
  split
  · rename_i e' he'
    rw [he] at he'
    cases he'
    rfl
  · rename_i q hq
    rw [he] at hq
    cases hq

theorem run_of_turn {p q : Painter} (hbusy : p.stack ≠ []) (hq : turn blocks cycles p = .ok q) :
    run blocks cycles p = run blocks cycles q := by
  rw [run, dif_neg hbusy]
  split
  · rename_i e he
    rw [hq] at he
    cases he
  · rename_i q' hq'
    rw [hq] at hq'
    cases hq'
    rfl

/-- What every turn keeps holds at the end of the run. -/
theorem run_ok {P : Painter → Prop}
    (hturn : ∀ p q, P p → turn blocks cycles p = .ok q → P q) {p q : Painter} (hp : P p)
    (hok : run blocks cycles p = .ok q) : P q ∧ q.stack = [] := by
  induction p using run.induct blocks cycles with
  | case1 p hstack =>
    rw [run_of_empty hstack] at hok
    cases hok
    exact ⟨hp, hstack⟩
  | case2 p hbusy e he =>
    rw [run_of_error hbusy he] at hok
    cases hok
  | case3 p hbusy r hr ih =>
    rw [run_of_turn hbusy hr] at hok
    exact ih (hturn p r hp hr) hok

/-- A run that fails does so at a turn of which everything holds that turns keep. -/
theorem run_error {P : Painter → Prop}
    (hturn : ∀ p q, P p → turn blocks cycles p = .ok q → P q) {p : Painter} {e : Error} (hp : P p)
    (herr : run blocks cycles p = .error e) : ∃ q, P q ∧ turn blocks cycles q = .error e := by
  induction p using run.induct blocks cycles with
  | case1 p hstack =>
    rw [run_of_empty hstack] at herr
    cases herr
  | case2 p hbusy e' he =>
    rw [run_of_error hbusy he] at herr
    cases herr
    exact ⟨p, hp, he⟩
  | case3 p hbusy r hr ih =>
    rw [run_of_turn hbusy hr] at herr
    exact ih (hturn p r hp hr) herr

end ScriptedChat.Painter
