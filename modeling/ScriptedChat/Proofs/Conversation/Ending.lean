import ScriptedChat.Proofs.Conversation.Steps
import ScriptedChat.Proofs.Script.Descent

/-!
Conversations in a script without cycles come to their end. Every state on the way has fewer
blocks ahead of it than the one before; so a landing meets no message twice, every input leaves
fewer blocks ahead, and after as many inputs as there are blocks none is left.
-/
namespace ScriptedChat

variable {script : Script}

namespace Script

/-- A landing succeeds, and no further blocks come ahead. The messages that were sent before all
had more blocks ahead than the state that is landed on, so none of them comes round again. -/
theorem WellFormed.landFrom_ok (h : WellFormed script.entries.rows script.blocks.rows .reject)
    {seen : List State} {s : State} (hs : script.HasState s)
    (hseen : ∀ u ∈ seen, script.ahead s < script.ahead u) :
    ∃ rest messages, script.landFrom seen s = .ok (rest, messages) ∧ script.HasState rest ∧
      script.ahead rest ≤ script.ahead s := by
  induction seen, s using landFrom.induct script with
  | case1 seen s hnone => exact ⟨s, [], landFrom_of_none hnone, hs, Nat.le_refl _⟩
  | case2 seen s b hb hmessage hagain =>
    have hstate : b.state = s := Table.key_of_get? hb
    have hlt := hseen b.state hagain
    rw [hstate] at hlt
    exact absurd hlt (Nat.lt_irrefl _)
  | case3 seen s b hb hmessage hfresh ih =>
    have hstate : b.state = s := Table.key_of_get? hb
    have hnext : b.next ∈ b.targets := Block.mem_targets.2 (Or.inl rfl)
    have hlt := h.ahead_lt hb hnext
    have hseen' : ∀ u ∈ b.state :: seen, script.ahead b.next < script.ahead u := by
      intro u hu
      rcases List.mem_cons.1 hu with rfl | hu
      · rw [hstate]
        exact hlt
      · exact Nat.lt_trans hlt (hseen u hu)
    obtain ⟨rest, messages, hland, hrest, hle⟩ := ih (h.hasState_target hb hnext) hseen'
    refine ⟨rest, b.message :: messages, ?_, hrest, by omega⟩
    rw [landFrom_of_message hb hmessage, if_neg hfresh, hland]
    rfl
  | case4 seen s b hb hwaits =>
    exact ⟨s, [b.message], landFrom_of_waits hb (by simpa using hwaits), hs, Nat.le_refl _⟩

theorem WellFormed.land_ok (h : WellFormed script.entries.rows script.blocks.rows .reject)
    {s : State} (hs : script.HasState s) :
    ∃ rest messages, script.land s = .ok (rest, messages) ∧ script.HasState rest ∧
      script.ahead rest ≤ script.ahead s :=
  h.landFrom_ok hs fun _ hu => absurd hu List.not_mem_nil

end Script

namespace Participant

/-- The participant after inputs that are processed in turn, unless one of them fails. -/
def processAll (script : Script) (p : Participant) (inputs : List String) :
    Except Error Participant :=
  inputs.foldlM (fun p input => (p.process script input).map Prod.snd) p

variable {p : Participant}

theorem processAll_cons (p : Participant) (input : String) (rest : List String) :
    p.processAll script (input :: rest) =
      ((p.process script input).map Prod.snd >>= fun q => q.processAll script rest) := by
  rw [processAll, List.foldlM_cons]
  rfl

section
variable (h : Script.WellFormed script.entries.rows script.blocks.rows .reject)
include h

theorem enter_ok (p : Participant) {key : String} {e : EntryPoint}
    (he : script.entry? key = some e) : ∃ messages q, p.enter script key = .ok (messages, q) := by
  have hstate := h.hasState_entry he
  obtain ⟨reached, hreached⟩ := h.exists_reachableFrom hstate
  obtain ⟨rest, messages, hland, _⟩ := h.land_ok hstate
  exact ⟨messages, (p.clear reached).moveTo rest,
    enter_ok_iff.2 ⟨e, reached, rest, he, hreached, hland, rfl⟩⟩

/-- An input that says something succeeds, and takes the participant ahead by a block at least. -/
theorem process_ok (hp : script.HasState p.state) {input : String} (hinput : input ≠ "") :
    ∃ t q, p.process script input = .ok (t, q) ∧ script.HasState q.state ∧
      script.ahead q.state ≤ script.ahead p.state - 1 := by
  by_cases hfin : p.state = finished
  · refine ⟨{}, p, process_of_finished hfin, hp, ?_⟩
    have hzero : script.ahead p.state = 0 := by rw [hfin, Script.ahead_finished]
    omega
  · obtain ⟨b, hb⟩ := Option.isSome_iff_exists.1 (hp.resolve_left hfin)
    have hroute := b.route_mem_targets input
    have hlt := h.ahead_lt hb hroute
    obtain ⟨rest, messages, hland, hrest, hle⟩ := h.land_ok (h.hasState_target hb hroute)
    refine ⟨⟨messages, p.takes b input⟩, p.moveTo rest, ?_, hrest, ?_⟩
    · apply process_ok_iff.2
      exact Or.inr ⟨hfin, b, rest, messages, hb, fun hempty => hinput hempty.2, hland, rfl, rfl⟩
    · show script.ahead rest ≤ script.ahead p.state - 1
      omega

theorem processAll_ok (inputs : List String) (hp : script.HasState p.state)
    (hinputs : ∀ input ∈ inputs, input ≠ "") :
    ∃ q, p.processAll script inputs = .ok q ∧ script.HasState q.state ∧
      script.ahead q.state ≤ script.ahead p.state - inputs.length := by
  induction inputs generalizing p with
  | nil => exact ⟨p, rfl, hp, Nat.le_refl _⟩
  | cons input rest ih =>
    obtain ⟨t, q, hprocess, hq, hle⟩ := process_ok h hp (hinputs input List.mem_cons_self)
    obtain ⟨r, hrest, hr, hle'⟩ :=
      ih hq fun other hother => hinputs other (List.mem_cons_of_mem _ hother)
    refine ⟨r, ?_, hr, ?_⟩
    · rw [processAll_cons, hprocess]
      exact hrest
    · rw [List.length_cons]
      omega

end

/-- In a script that is accepted without cycles, every entry succeeds, every input that says
something succeeds, and as many such inputs as there are blocks lead to the end. -/
theorem conversation_ends {entries : List EntryPoint} {blocks : List Block}
    (hbuild : Script.build entries blocks .reject = .ok script) :
    (∀ (p : Participant) (key : String), (script.entry? key).isSome →
      ∃ messages q, p.enter script key = .ok (messages, q)) ∧
    ∀ p : Participant, script.HasState p.state →
      (∀ input, input ≠ "" → ∃ t q, p.process script input = .ok (t, q)) ∧
      ∀ inputs : List String, (∀ input ∈ inputs, input ≠ "") →
        script.blocks.rows.length ≤ inputs.length →
        ∃ q, p.processAll script inputs = .ok q ∧ q.state = finished := by
  have h := Script.wellFormed_rows_of_build hbuild
  refine ⟨?_, ?_⟩
  · intro p key hkey
    obtain ⟨e, he⟩ := Option.isSome_iff_exists.1 hkey
    exact enter_ok h p he
  · intro p hp
    refine ⟨?_, ?_⟩
    · intro input hinput
      obtain ⟨t, q, hprocess, _⟩ := process_ok h hp hinput
      exact ⟨t, q, hprocess⟩
    · intro inputs hinputs hlength
      obtain ⟨q, hall, hq, hle⟩ := processAll_ok h inputs hp hinputs
      refine ⟨q, hall, ?_⟩
      by_contra hne
      have hpos := h.ahead_pos hq hne
      have hbound := script.ahead_le_length p.state
      omega

/-- A diamond with a message on one side: a user who stands at its top is done after four
inputs. -/
theorem conversation_ends_diamond :
    let entries : List EntryPoint := [⟨"start", 1⟩]
    let blocks : List Block := [⟨1, 3, "Way", "Left or right?", .selection [⟨"left", 2⟩]⟩,
      ⟨2, 4, "Left", "You went left", .message⟩, ⟨3, 4, "Why", "Why not left?", .question⟩,
      ⟨4, 0, "Name", "Who are you?", .question⟩]
    let script := Script.restore entries blocks
    let p : Participant := .restore ⟨⟨1⟩, 7⟩ 1 []
    let inputs := ["left", "Ann", "Ann", "Ann"]
    Script.build entries blocks .reject = .ok script ∧ script.HasState p.state ∧
      (∀ input ∈ inputs, input ≠ "") ∧ script.blocks.rows.length ≤ inputs.length ∧
      ∃ q, p.processAll script inputs = .ok q ∧ q.state = finished := by
  intro entries blocks script p inputs
  have hbuild : Script.build entries blocks .reject = .ok script := by decide +kernel
  have hstate : script.HasState p.state := Or.inr (by decide +kernel)
  have hinputs : ∀ input ∈ inputs, input ≠ "" := by decide +kernel
  have hlength : script.blocks.rows.length ≤ inputs.length := by decide +kernel
  exact ⟨hbuild, hstate, hinputs, hlength,
    ((conversation_ends hbuild).2 p hstate).2 inputs hinputs hlength⟩

end Participant

end ScriptedChat
