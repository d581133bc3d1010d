import ScriptedChat.Proofs.Conversation.Steps

/-!
The states that a landing moves over. From a message it goes on to the next state, so these
states form a chain. A landing that succeeds moves over the whole chain, sends the message of
every block on it, and rests at its last state, where no message is.
-/
namespace ScriptedChat.Script

open Relation

variable {script : Script} {seen : List State} {s t rest : State} {b : Block}
  {messages : List Message}

/-- Whether a landing goes straight on from a state to another. -/
def Advances (script : Script) (s t : State) : Prop :=
  ∃ b, script.block? s = some b ∧ b.isMessage = true ∧ b.next = t

/-- Whether a landing on a state moves over another, or over that state itself. -/
abbrev Passes (script : Script) : State → State → Prop := ReflTransGen script.Advances

theorem not_advances_of_none (h : script.block? s = none) : ¬ script.Advances s t := by
  intro hadvances
  obtain ⟨b, hb, _⟩ := hadvances
  rw [h] at hb
  cases hb

theorem not_advances_of_waits (h : script.block? s = some b) (hwaits : b.isMessage = false) :
    ¬ script.Advances s t := by
  intro hadvances
  obtain ⟨c, hc, hmessage, _⟩ := hadvances
  rw [h] at hc
  cases hc
  rw [hwaits] at hmessage
  cases hmessage

theorem advances_iff_of_message (h : script.block? s = some b) (hmessage : b.isMessage = true) :
    script.Advances s t ↔ b.next = t := by
  constructor
  · intro hadvances
    obtain ⟨c, hc, _, hnext⟩ := hadvances
    rw [h] at hc
    cases hc
    exact hnext
  · intro hnext
    exact ⟨b, h, hmessage, hnext⟩

/-- A chain that goes nowhere has one state. -/
theorem passes_eq (h : ∀ t, ¬ script.Advances s t) (hpasses : script.Passes s t) : t = s := by
  rcases hpasses.cases_head with heq | ⟨u, hadvances, _⟩
  · exact heq.symm
  · exact absurd hadvances (h u)

/-- A landing goes to the end of its chain and sends the messages on the way. -/
theorem landFrom_passes (h : script.landFrom seen s = .ok (rest, messages))
    (hpasses : script.Passes s t) :
    script.Passes t rest ∧ ∀ b, script.block? t = some b → b.message ∈ messages := by
  induction seen, s using landFrom.induct script generalizing messages t with
  | case1 seen s hnone =>
    rw [landFrom_of_none hnone] at h
    cases h
    rw [passes_eq (fun _ => not_advances_of_none hnone) hpasses]
    refine ⟨ReflTransGen.refl, ?_⟩
    intro b hb
    rw [hnone] at hb
    cases hb
  | case2 seen s b hb hmessage hagain =>
    rw [landFrom_of_message hb hmessage, if_pos hagain] at h
    cases h
  | case3 seen s b hb hmessage hfresh ih =>
    rw [landFrom_of_message hb hmessage, if_neg hfresh, Outcome.map_ok_iff] at h
    obtain ⟨⟨rest', messages'⟩, hland, heq⟩ := h
    cases heq
    have hadvances := (advances_iff_of_message hb hmessage).2 rfl
    rcases hpasses.cases_head with rfl | ⟨u, hstep, hrest⟩
    · refine ⟨(ih hland ReflTransGen.refl).1.head hadvances, ?_⟩
      intro c hc
      rw [hb] at hc
      cases hc
      exact List.mem_cons_self
    · rw [← (advances_iff_of_message hb hmessage).1 hstep] at hrest
      obtain ⟨hend, hsent⟩ := ih hland hrest
      exact ⟨hend, fun c hc => List.mem_cons_of_mem _ (hsent c hc)⟩
  | case4 seen s b hb hwaits =>
    have hwaits : b.isMessage = false := by simpa using hwaits
    rw [landFrom_of_waits hb hwaits] at h
    cases h
    rw [passes_eq (fun _ => not_advances_of_waits hb hwaits) hpasses]
    refine ⟨ReflTransGen.refl, ?_⟩
    intro c hc
    rw [hb] at hc
    cases hc
    exact List.mem_singleton_self _

theorem land_passes (h : script.land s = .ok (rest, messages)) : script.Passes s rest :=
  (landFrom_passes h ReflTransGen.refl).1

/-- A landing that moves over a block that waits rests there. -/
theorem land_rests (h : script.land s = .ok (rest, messages)) (hpasses : script.Passes s t)
    (hb : script.block? t = some b) (hwaits : b.isMessage = false) : rest = t :=
  passes_eq (fun _ => not_advances_of_waits hb hwaits) (landFrom_passes h hpasses).1

end ScriptedChat.Script
