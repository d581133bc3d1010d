import ScriptedChat.Script.Block

/-!
Depth-first search over the blocks of a script. A state is grey while it lies on the stack and
black after it has left it, and each entry of the stack remembers the targets that were not
looked at yet. The work still to do is the number of uncoloured blocks with their targets and
the number of stacked states with their remaining targets; every turn takes one off it, so
the search ends.
-/
namespace ScriptedChat

inductive Colour
  | grey
  | black
  deriving DecidableEq

/-- A state that the search has met. -/
structure Mark where
  state : State
  colour : Colour
  deriving DecidableEq

/-- The state of a search: the marks so far and the stack, its top first. -/
structure Painter where
  marks : Table Mark.state
  stack : List (State × List State)
  deriving DecidableEq

namespace Painter

def start : Painter := ⟨.empty, []⟩

def colour? (p : Painter) (s : State) : Option Colour := (p.marks.get? s).map Mark.colour

/-- The states that the search has met, in ascending order. -/
def painted (p : Painter) : List State := p.marks.keys

/-- Looks at a state: a fresh block is marked and stacked, and a grey one closes a cycle. -/
def discover (blocks : Blocks) (cycles : CyclePolicy) (s : State) (p : Painter) :
    Except Error Painter :=
  if s = finished then .ok p
  else
    match blocks.get? s with
    | none => .error (.blockNotFound s)
    | some block =>
      match p.colour? s with
      | none => .ok ⟨p.marks.insert ⟨s, .grey⟩, (s, block.targets) :: p.stack⟩
      | some .grey => if cycles = .reject then .error (.cycleDetected s) else .ok p
      | some .black => .ok p

/-- One turn: looks at the next target of the state on top, or takes it off when none is
left. -/
def turn (blocks : Blocks) (cycles : CyclePolicy) (p : Painter) : Except Error Painter :=
  match p.stack with
  | [] => .ok p
  | (s, []) :: below => .ok ⟨p.marks.insert ⟨s, .black⟩, below⟩
  | (s, t :: targets) :: below => discover blocks cycles t ⟨p.marks, (s, targets) :: below⟩

/-- What a block costs as long as it has no mark. -/
def cost (p : Painter) (b : Block) : Nat :=
  if (p.colour? b.state).isNone then b.targets.length + 1 else 0

/-- The sum of numbers. -/
def total (l : List Nat) : Nat := l.foldr (· + ·) 0

theorem total_cons (n : Nat) (l : List Nat) : total (n :: l) = n + total l := rfl

/-- The number of turns that are left at most. -/
def work (blocks : Blocks) (p : Painter) : Nat :=
  total (blocks.rows.map p.cost) + total (p.stack.map fun e => e.2.length + 1)

theorem colour?_mark (p : Painter) (s t : State) (c : Colour) (stack : List (State × List State)) :
    (Painter.mk (p.marks.insert ⟨s, c⟩) stack).colour? t =
      if s = t then some c else p.colour? t := by
  by_cases h : s = t
  · subst h
    simp [colour?]
  · have : compare s t ≠ .eq := fun e => h (Std.LawfulEqOrd.eq_of_compare e)
    simp [colour?, Table.get?_insert, this, h]

/-- A mark lowers the cost of its own block to nothing and raises no other. -/
theorem cost_mark_le (p : Painter) (s : State) (c : Colour) (stack : List (State × List State))
    (b : Block) : (Painter.mk (p.marks.insert ⟨s, c⟩) stack).cost b ≤ p.cost b := by
  unfold cost
  rw [colour?_mark]
  by_cases h : s = b.state <;> simp [h]

theorem total_cost_mark_le (p : Painter) (s : State) (c : Colour)
    (stack : List (State × List State)) (l : List Block) :
    total (l.map (Painter.mk (p.marks.insert ⟨s, c⟩) stack).cost) ≤ total (l.map p.cost) := by
  induction l with
  | nil => simp
  | cons b rest ih =>
    have := cost_mark_le p s c stack b
    simp only [List.map_cons, total_cons]
    omega

theorem total_cost_fresh (p : Painter) (c : Colour) (stack : List (State × List State))
    {b : Block} (fresh : p.colour? b.state = none) {l : List Block} (mem : b ∈ l) :
    total (l.map (Painter.mk (p.marks.insert ⟨b.state, c⟩) stack).cost) + (b.targets.length + 1) ≤
      total (l.map p.cost) := by
  induction l with
  | nil => cases mem
  | cons a rest ih =>
    simp only [List.map_cons, total_cons]
    rcases List.mem_cons.1 mem with rfl | mem
    · have h := total_cost_mark_le p b.state c stack rest
      have h₁ : (Painter.mk (p.marks.insert ⟨b.state, c⟩) stack).cost b = 0 := by
        simp [cost, colour?_mark]
      have h₂ : p.cost b = b.targets.length + 1 := by simp [cost, fresh]
      omega
    · have := ih mem
      have := cost_mark_le p b.state c stack a
      omega

theorem work_discover_le {blocks : Blocks} {cycles : CyclePolicy} {s : State} {p q : Painter}
    (h : discover blocks cycles s p = .ok q) : work blocks q ≤ work blocks p := by
  unfold discover at h
  split at h
  · cases h; exact Nat.le_refl _
  · split at h
    · cases h
    · rename_i block hblock
      split at h
      · rename_i fresh
        cases h
        have hs := Table.key_of_get? hblock
        subst hs
        have := total_cost_fresh p .grey ((block.state, block.targets) :: p.stack) fresh
          (Table.mem_of_get? hblock)
        simp only [work, List.map_cons, total_cons]
        omega
      · split at h
        · cases h
        · cases h; exact Nat.le_refl _
      · cases h; exact Nat.le_refl _

/-- Every turn on a stack that is not empty takes work off. -/
theorem work_turn_lt {blocks : Blocks} {cycles : CyclePolicy} {p q : Painter}
    (busy : p.stack ≠ []) (h : turn blocks cycles p = .ok q) : work blocks q < work blocks p := by
  unfold turn at h
  split at h
  · contradiction
  · rename_i s below heq
    cases h
    have := total_cost_mark_le p s .black below blocks.rows
    simp only [work, heq, List.map_cons, total_cons, List.length_nil]
    omega
  · rename_i s t targets below heq
    have := work_discover_le h
    have hcost : (Painter.mk p.marks ((s, targets) :: below)).cost = p.cost := rfl
    simp only [work, heq, List.map_cons, total_cons, List.length_cons, hcost] at this ⊢
    omega

/-- Takes turns until the stack is empty. -/
def run (blocks : Blocks) (cycles : CyclePolicy) (p : Painter) : Except Error Painter :=
  if _busy : p.stack = [] then .ok p
  else
    match _next : turn blocks cycles p with
    | .error e => .error e
    | .ok q => run blocks cycles q
termination_by work blocks p
decreasing_by exact work_turn_lt _busy _next

/-- Marks everything that can be reached from a state. -/
def paintFrom (blocks : Blocks) (cycles : CyclePolicy) (root : State) (p : Painter) :
    Except Error Painter := do
  run blocks cycles (← discover blocks cycles root p)

end Painter

namespace Blocks

/-- The states that can be reached from a root, the root among them, in ascending order. -/
def reachableFrom (blocks : Blocks) (root : State) : Except Error (List State) :=
  (Painter.start.paintFrom blocks .permissive root).map Painter.painted

/-- The rules for the graph of a script: every edge that can be followed from an entry point
leads to a block or to the end, cycles are allowed by the policy or absent, and every block can
be reached. Entry points are followed in the order of their keys. -/
def checkGraph (blocks : Blocks) (entries : EntryPoints) (cycles : CyclePolicy) :
    Except Error Unit := do
  let painter ← entries.rows.foldlM (fun p e => Painter.paintFrom blocks cycles e.state p)
    Painter.start
  match blocks.keys.find? fun s => (painter.colour? s).isNone with
  | some unused => .error (.unusedBlock unused)
  | none => .ok ()

end Blocks

end ScriptedChat
