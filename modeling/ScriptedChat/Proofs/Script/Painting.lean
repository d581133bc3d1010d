import Mathlib.Data.List.Induction
import ScriptedChat.Proofs.Script.Extent

/-!
Searches one after the other over the same marks. A search is followed turn by turn, with the states
that came onto its stack. At every turn the grey states are those on the stack, each of them a
successor of the one below it, and a black state leads to coloured states or to the end. A search
that comes to its end leaves nothing grey behind, so the next one finds a painter at rest. Over all
searches together no state comes onto the stack twice, and a state that does is worth one turn for
each of its targets and one for leaving; so the turns taken and those that the stack still asks for
are as many as the coloured states and their edges.
-/
namespace ScriptedChat.Painter

open Relation ScriptedChat.Graph

/-- The searches from all roots of a list, one after the other. -/
def paintAll (blocks : Blocks) (cycles : CyclePolicy) (roots : List State) (p : Painter) :
    Except Error Painter :=
  roots.foldlM (fun p root => paintFrom blocks cycles root p) p

/-- The states that come onto the stack between two painters, the top first. -/
def risen (p q : Painter) : List State := q.stacked.take (q.stack.length - p.stack.length)

/-- A search from a root that began at a painter, the states that have come onto its stack, the last
one first, how many turns it has taken and where it stands. -/
inductive Tour (blocks : Blocks) (cycles : CyclePolicy) (root : State) (p : Painter) :
    List State → Nat → Painter → Prop
  | look {q : Painter} (hlook : discover blocks cycles root p = .ok q) :
      Tour blocks cycles root p (risen p q) 0 q
  | step {pushed : List State} {n : Nat} {q r : Painter}
      (h : Tour blocks cycles root p pushed n q) (hbusy : q.stack ≠ [])
      (hturn : turn blocks cycles q = .ok r) :
      Tour blocks cycles root p (risen q r ++ pushed) (n + 1) r

/-- Searches of a new painter that have all come to their end: their roots in order, the states
that came onto the stack in any of them and the turns of all. -/
inductive Tours (blocks : Blocks) (cycles : CyclePolicy) :
    List State → List State → Nat → Painter → Prop
  | new : Tours blocks cycles [] [] 0 start
  | tour {roots pushed pushed' : List State} {root : State} {turns n : Nat} {p q : Painter}
      (h : Tours blocks cycles roots pushed turns p)
      (htour : Tour blocks cycles root p pushed' n q) (hdone : q.stack = []) :
      Tours blocks cycles (roots ++ [root]) (pushed' ++ pushed) (turns + n) q

/-- The order that a search keeps at every turn. -/
structure Orderly (blocks : Blocks) (p : Painter) : Prop where
  grey_iff : ∀ s, p.colour? s = some .grey ↔ s ∈ p.stacked
  nodup : p.stacked.Nodup
  /-- Every stacked state is a successor of the one below it. -/
  chained : p.stacked.IsChain fun above below => Edge blocks.rows below above
  black : ∀ s, p.colour? s = some .black → ∃ b, blocks.get? s = some b ∧
    ∀ t ∈ b.targets, t = finished ∨ p.colour? t = some .black ∨ p.colour? t = some .grey

/-- How many edges go out of a state, those to the end of the script among them. -/
def degree (blocks : Blocks) (s : State) : Nat :=
  match blocks.get? s with
  | some b => b.targets.length
  | none => 0

/-- How many edges go out of states. -/
def edges (blocks : Blocks) (states : List State) : Nat := total (states.map (degree blocks))

variable {blocks : Blocks} {cycles : CyclePolicy}

theorem Frames.chained {p : Painter} {current : Option State} {stack : List (State × List State)}
    (h : Frames blocks cycles p current stack) (hne : ∀ s ∈ stack.map Prod.fst, s ≠ finished) :
    (stack.map Prod.fst).IsChain fun above below => Edge blocks.rows below above := by
  induction stack generalizing current with
  | nil => exact .nil
  | cons e below ih =>
    have hbelow := ih h.2 fun s hs => hne s (List.mem_cons_of_mem _ hs)
    cases below with
    | nil => exact .singleton _
    | cons f rest =>
      obtain ⟨⟨b, done, hb, htargets, _, hcurrent⟩, _⟩ := h.2
      have hmem : e.1 ∈ b.targets := by
        rw [htargets]
        exact List.mem_append_left _ (hcurrent e.1 rfl)
      exact .cons_cons (edge_of_mem_targets hb hmem (hne e.1 List.mem_cons_self)) hbelow

theorem Consistent.orderly {p : Painter} (h : Consistent blocks cycles none p) :
    Orderly blocks p := by
  refine ⟨h.grey_iff, h.nodup, h.frames.chained ?_, ?_⟩
  · intro s hs
    exact (h.vertex s (coloured_iff.2 (.inl ((h.grey_iff s).2 hs)))).1
  · intro s hs
    obtain ⟨b, hb⟩ := Option.isSome_iff_exists.1 (h.vertex s (coloured_iff.2 (.inr hs))).2
    refine ⟨b, hb, fun t ht => ?_⟩
    exact (h.black s b hs hb t ht).imp_right (.imp_right And.right)

/-! A search, turn by turn. -/

/-- A search that began at rest keeps the invariant of searches. -/
theorem Tour.consistent {p q : Painter} {root : State} {pushed : List State} {n : Nat}
    (h : Tour blocks cycles root p pushed n q) (hp : AtRest blocks cycles p) :
    Consistent blocks cycles none q := by
  induction h with
  | look hlook => exact ((hp.look root).discover hlook).1
  | step _ _ hturn ih => exact (ih.turn hturn).1

/-- A search that is under way comes to its end: it takes turns until nothing is left on the stack
or a turn fails, and that is its outcome. -/
theorem Tour.ends {p q : Painter} {root : State} {pushed : List State} {n : Nat}
    (h : Tour blocks cycles root p pushed n q) :
    ∃ pushed' n' r, Tour blocks cycles root p pushed' n' r ∧
      ((r.stack = [] ∧ run blocks cycles q = .ok r) ∨
        (r.stack ≠ [] ∧ ∃ e, turn blocks cycles r = .error e ∧ run blocks cycles q = .error e)) := by
  induction q using run.induct blocks cycles generalizing pushed n with
  | case1 q hstack => exact ⟨pushed, n, q, h, .inl ⟨hstack, run_of_empty hstack⟩⟩
  | case2 q hbusy e he => exact ⟨pushed, n, q, h, .inr ⟨hbusy, e, he, run_of_error hbusy he⟩⟩
  | case3 q hbusy r hr ih =>
    rw [run_of_turn hbusy hr]
    exact ih (h.step hbusy hr)

/-- A search either fails as it looks at its root, or comes to its end after some turns. -/
theorem paintFrom_ends (blocks : Blocks) (cycles : CyclePolicy) (p : Painter) (root : State) :
    (∃ e, discover blocks cycles root p = .error e ∧
        paintFrom blocks cycles root p = .error e) ∨
      ∃ pushed n q, Tour blocks cycles root p pushed n q ∧
        ((q.stack = [] ∧ paintFrom blocks cycles root p = .ok q) ∨
          (q.stack ≠ [] ∧ ∃ e, turn blocks cycles q = .error e ∧
            paintFrom blocks cycles root p = .error e)) := by
  unfold paintFrom
  cases hlook : discover blocks cycles root p with
  | error e => exact .inl ⟨e, rfl, rfl⟩
  | ok q => exact .inr (Tour.look hlook).ends

theorem exists_tour_of_paintFrom {p q : Painter} {root : State}
    (h : paintFrom blocks cycles root p = .ok q) :
    ∃ pushed n, Tour blocks cycles root p pushed n q ∧ q.stack = [] := by
  rcases paintFrom_ends blocks cycles p root with
    ⟨e, _, he⟩ | ⟨pushed, n, r, htour, ⟨hstack, hr⟩ | ⟨_, e, _, he⟩⟩
  · rw [h] at he
    cases he
  · rw [h] at hr
    cases hr
    exact ⟨pushed, n, htour, hstack⟩
  · rw [h] at he
    cases he

theorem paintAll_concat (roots : List State) (root : State) (p : Painter) :
    paintAll blocks cycles (roots ++ [root]) p =
      (paintAll blocks cycles roots p >>= paintFrom blocks cycles root) := by
  rw [paintAll, List.foldlM_append]
  simp only [List.foldlM_cons, List.foldlM_nil, bind_pure, paintAll]

theorem exists_tours_of_paintAll {roots : List State} {p : Painter}
    (h : paintAll blocks cycles roots start = .ok p) :
    ∃ pushed turns, Tours blocks cycles roots pushed turns p := by
  induction roots using List.reverseRecOn generalizing p with
  | nil =>
    cases h
    exact ⟨[], 0, .new⟩
  | append_singleton roots root ih =>
    rw [paintAll_concat, Outcome.bind_ok_iff] at h
    obtain ⟨q, hq, hp⟩ := h
    obtain ⟨pushed, turns, htours⟩ := ih hq
    obtain ⟨pushed', n, htour, hdone⟩ := exists_tour_of_paintFrom hp
    exact ⟨pushed' ++ pushed, turns + n, htours.tour htour hdone⟩

theorem Tours.atRest {roots pushed : List State} {turns : Nat} {p : Painter}
    (h : Tours blocks cycles roots pushed turns p) : AtRest blocks cycles p := by
  induction h with
  | new => exact atRest_start
  | tour _ htour hdone ih => exact ⟨htour.consistent ih, hdone⟩

/-! The account of turns. -/

theorem total_perm {l m : List Nat} (h : l.Perm m) : total l = total m := by
  induction h with
  | nil => rfl
  | cons n _ ih => rw [total_cons, total_cons, ih]
  | swap m n l =>
    simp only [total_cons]
    omega
  | trans _ _ ih ih' => rw [ih, ih']

/-- The turns that a stack still asks for: one for each target that was not looked at, and one for
leaving each state. -/
def left (stack : List (State × List State)) : Nat := total (stack.map fun e => e.2.length + 1)

theorem left_cons (s : State) (targets : List State) (below : List (State × List State)) :
    left ((s, targets) :: below) = targets.length + 1 + left below := rfl

/-- The states that came onto the stack are the coloured ones, each came once, and together they
are worth the turns that were taken and those that are left. -/
structure Accounted (blocks : Blocks) (pushed : List State) (turns : Nat) (p : Painter) : Prop where
  nodup : pushed.Nodup
  mem_iff : ∀ s, s ∈ pushed ↔ p.Coloured s
  balance : turns + left p.stack = total (pushed.map fun s => degree blocks s + 1)

theorem risen_eq_nil {p q : Painter} (h : q.stack.length ≤ p.stack.length) : risen p q = [] := by
  rw [risen, Nat.sub_eq_zero_of_le h, List.take_zero]

theorem risen_push (p : Painter) (marks : Table Mark.state) (t : State) (targets : List State) :
    risen p ⟨marks, (t, targets) :: p.stack⟩ = [t] := by
  simp [risen, stacked]

theorem accounted_start : Accounted blocks [] 0 start := by
  refine ⟨List.nodup_nil, fun s => ?_, rfl⟩
  exact iff_of_false List.not_mem_nil (not_coloured_start s)

theorem coloured_mark {p : Painter} {s t : State} {c : Colour}
    {stack : List (State × List State)} :
    (Painter.mk (p.marks.insert ⟨s, c⟩) stack).Coloured t ↔ t = s ∨ p.Coloured t := by
  unfold Coloured
  rw [colour?_mark]
  by_cases h : s = t
  · simp [h]
  · simp [h, Ne.symm h]

theorem Accounted.discover {p q : Painter} {pushed : List State} {turns : Nat} {t : State}
    (h : Accounted blocks pushed turns p) (hok : discover blocks cycles t p = .ok q) :
    Accounted blocks (risen p q ++ pushed) turns q := by
  rcases discover_ok hok with ⟨rfl, _⟩ | ⟨_, hfresh, b, hb, rfl⟩
  · rwa [risen_eq_nil (Nat.le_refl _), List.nil_append]
  · have hnew : t ∉ pushed := fun ht => (h.mem_iff t).1 ht hfresh
    have hdegree : degree blocks t = b.targets.length := by rw [degree, hb]
    rw [risen_push, List.singleton_append]
    refine ⟨List.nodup_cons.2 ⟨hnew, h.nodup⟩, fun s => ?_, ?_⟩
    · rw [coloured_mark, List.mem_cons, h.mem_iff]
    · have := h.balance
      rw [left_cons, List.map_cons, total_cons, hdegree]
      omega

theorem Accounted.turn {p q : Painter} {pushed : List State} {turns : Nat}
    (h : Accounted blocks pushed turns p) (hp : Consistent blocks cycles none p)
    (hbusy : p.stack ≠ []) (hok : turn blocks cycles p = .ok q) :
    Accounted blocks (risen p q ++ pushed) (turns + 1) q := by
  have hbalance := h.balance
  unfold Painter.turn at hok
  split at hok
  · contradiction
  · rename_i s below hstack
    cases hok
    -- The state that turns black was on the stack, so it is in the account already.
    have hs : p.Coloured s := by
      refine coloured_iff.2 (.inl ((hp.grey_iff s).2 ?_))
      simp [stacked, hstack]
    rw [hstack, left_cons] at hbalance
    rw [risen_eq_nil (by simp [hstack]), List.nil_append]
    refine ⟨h.nodup, fun t => ?_, ?_⟩
    · rw [h.mem_iff, coloured_mark]
      exact (or_iff_right_of_imp fun ht => ht ▸ hs).symm
    · show turns + 1 + left below = _
      rw [List.length_nil] at hbalance
      omega
  · rename_i s t targets below hstack
    -- Taking the target off the top pays for the turn; what comes onto the stack pays for itself.
    have hlook : Accounted blocks pushed (turns + 1) ⟨p.marks, (s, targets) :: below⟩ := by
      refine ⟨h.nodup, h.mem_iff, ?_⟩
      rw [hstack, left_cons, List.length_cons] at hbalance
      rw [left_cons]
      omega
    have hrisen : risen p q = risen ⟨p.marks, (s, targets) :: below⟩ q := by
      simp [risen, hstack]
    rw [hrisen]
    exact hlook.discover hok

theorem Accounted.tour {p q : Painter} {root : State} {pushed pushed' : List State}
    {turns n : Nat} (h : Accounted blocks pushed turns p) (hp : AtRest blocks cycles p)
    (htour : Tour blocks cycles root p pushed' n q) :
    Accounted blocks (pushed' ++ pushed) (turns + n) q := by
  induction htour with
  | look hlook => exact h.discover hlook
  | step hbefore hbusy hturn ih =>
    rw [List.append_assoc]
    exact ih.turn (hbefore.consistent hp) hbusy hturn

theorem Tours.accounted {roots pushed : List State} {turns : Nat} {p : Painter}
    (h : Tours blocks cycles roots pushed turns p) : Accounted blocks pushed turns p := by
  induction h with
  | new => exact accounted_start
  | tour hbefore htour _ ih => exact ih.tour hbefore.atRest htour

theorem total_succ (f : State → Nat) (l : List State) :
    total (l.map fun s => f s + 1) = l.length + total (l.map f) := by
  induction l with
  | nil => rfl
  | cons s l ih =>
    simp only [List.map_cons, total_cons, List.length_cons, ih]
    omega

/-- The turns that were taken and those that are left are as many as the coloured states and their
edges. -/
theorem Accounted.turns_eq {pushed : List State} {turns : Nat} {p : Painter}
    (h : Accounted blocks pushed turns p) :
    turns + left p.stack = p.painted.length + edges blocks p.painted := by
  have hperm : pushed.Perm p.painted := by
    refine (List.perm_ext_iff_of_nodup h.nodup p.marks.keys_nodup).2 fun s => ?_
    rw [h.mem_iff, ← mem_painted]
    rfl
  rw [h.balance, total_perm (hperm.map _), total_succ, edges]

theorem left_pos {stack : List (State × List State)} (h : stack ≠ []) : 0 < left stack := by
  cases stack with
  | nil => contradiction
  | cons e below =>
    rw [left_cons]
    omega

/-- Searches compose. A painter whose searches came to their end can search from any root: it takes
turns until its stack is empty or a state is at fault. It is orderly at every turn; over all
searches no state comes onto the stack twice, and the turns, the next one included if there is one,
are at most as many as the coloured states and their edges. A search that succeeds leaves no state
grey and adds what its root reaches to what was coloured before. -/
theorem paintFrom_composes {roots : List State} {p : Painter}
    (h : paintAll blocks cycles roots start = .ok p) (root : State) :
    ∃ pushed turns, Tours blocks cycles roots pushed turns p ∧
      ((∃ e, discover blocks cycles root p = .error e ∧
          paintFrom blocks cycles root p = .error e) ∨
        ∃ pushed' n q, Tour blocks cycles root p pushed' n q ∧
          ((q.stack = [] ∧ paintFrom blocks cycles root p = .ok q) ∨
            (q.stack ≠ [] ∧ ∃ e, turn blocks cycles q = .error e ∧
              paintFrom blocks cycles root p = .error e))) ∧
      (∀ pushed' n q, Tour blocks cycles root p pushed' n q →
        Orderly blocks q ∧ (pushed' ++ pushed).Nodup ∧
          turns + n ≤ q.painted.length + edges blocks q.painted ∧
          (q.stack ≠ [] → turns + n < q.painted.length + edges blocks q.painted)) ∧
      ∀ q, paintFrom blocks cycles root p = .ok q →
        (∀ s, q.colour? s ≠ some .grey) ∧
          ∀ s, s ∈ q.painted ↔ s ∈ p.painted ∨ blocks.Reached root s := by
  obtain ⟨pushed, turns, htours⟩ := exists_tours_of_paintAll h
  refine ⟨pushed, turns, htours, paintFrom_ends blocks cycles p root, ?_, ?_⟩
  · intro pushed' n q htour
    have haccount := htours.accounted.tour htours.atRest htour
    have hturns := haccount.turns_eq
    refine ⟨(htour.consistent htours.atRest).orderly, haccount.nodup, by omega, fun hbusy => ?_⟩
    have := left_pos hbusy
    omega
  · intro q hq
    obtain ⟨hrest, hcoloured⟩ := htours.atRest.paintFrom_ok hq
    constructor
    · intro s hgrey
      have hstacked := (hrest.consistent.grey_iff s).1 hgrey
      simp [stacked, hrest.stack_eq] at hstacked
    · intro s
      rw [mem_painted, mem_painted, hcoloured, Found, Blocks.reached_iff]

/-- A question and a message that lead to each other were searched, and then a selection is that
leads to the message, to itself and to the end. -/
theorem paintFrom_composes_loop :
    let blocks : Blocks := .ofList [⟨1, 2, "Name", "Who are you?", .question⟩,
      ⟨2, 1, "Again", "Once more", .message⟩,
      ⟨3, 0, "Pick", "Which one?", .selection [⟨"back", 2⟩, ⟨"stay", 3⟩]⟩]
    let p : Painter := ⟨.ofList [⟨1, .black⟩, ⟨2, .black⟩], []⟩
    let q : Painter := ⟨.ofList [⟨1, .black⟩, ⟨2, .black⟩, ⟨3, .black⟩], []⟩
    paintAll blocks .permissive [1] start = .ok p ∧
      paintFrom blocks .permissive 3 p = .ok q ∧
      ∃ pushed turns, Tours blocks .permissive [1] pushed turns p ∧
        (∃ pushed' n, Tour blocks .permissive 3 p pushed' n q) ∧
        (∀ pushed' n r, Tour blocks .permissive 3 p pushed' n r →
          Orderly blocks r ∧ (pushed' ++ pushed).Nodup ∧
            turns + n ≤ r.painted.length + edges blocks r.painted ∧
            (r.stack ≠ [] → turns + n < r.painted.length + edges blocks r.painted)) ∧
        (∀ s, q.colour? s ≠ some .grey) ∧
          ∀ s, s ∈ q.painted ↔ s ∈ p.painted ∨ blocks.Reached 3 s := by
  intro blocks p q
  have hp : paintAll blocks .permissive [1] start = .ok p := by decide +kernel
  have hq : paintFrom blocks .permissive 3 p = .ok q := by decide +kernel
  obtain ⟨pushed, turns, htours, _, horder, hok⟩ := paintFrom_composes hp 3
  obtain ⟨pushed', n, htour, _⟩ := exists_tour_of_paintFrom hq
  exact ⟨hp, hq, pushed, turns, htours, ⟨pushed', n, htour⟩, horder, hok q hq⟩

end ScriptedChat.Painter
