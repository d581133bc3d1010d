import ScriptedChat.Proofs.Conversation.Steps
import ScriptedChat.Proofs.Script.Descent

/-!
Where a participant rests. A landing that succeeds ends at the end of the script or at a block that
waits: no edge of a well-formed script leads to a missing state, and messages are moved over. So a
participant that rests goes on resting with every entry and with every input, and both can fail for
the reasons only that the user or the script gives: an unknown entry point, an answer without a
text, or messages that come round again.
-/
namespace ScriptedChat

namespace Script

variable {script : Script} {seen : List State} {s rest : State} {messages : List Message}

/-- Whether a state is that of a question or of a selection. -/
def Waits (script : Script) (s : State) : Prop :=
  ∃ b, script.block? s = some b ∧ b.isMessage = false

/-- No message is left over at the end of a landing. -/
theorem landFrom_not_message (h : script.landFrom seen s = .ok (rest, messages)) {b : Block}
    (hb : script.block? rest = some b) : b.isMessage = false := by
  induction seen, s using landFrom.induct script generalizing messages with
  | case1 seen s hnone =>
    rw [landFrom_of_none hnone] at h
    cases h
    rw [hnone] at hb
    cases hb
  | case2 seen s c hc hmessage hagain =>
    rw [landFrom_of_message hc hmessage, if_pos hagain] at h
    cases h
  | case3 seen s c hc hmessage hfresh ih =>
    rw [landFrom_of_message hc hmessage, if_neg hfresh, Outcome.map_ok_iff] at h
    obtain ⟨⟨rest', messages'⟩, hland, heq⟩ := h
    cases heq
    exact ih hland
  | case4 seen s c hc hwaits =>
    have hwaits : c.isMessage = false := by simpa using hwaits
    rw [landFrom_of_waits hc hwaits] at h
    cases h
    rw [hc] at hb
    cases hb
    exact hwaits

/-- A landing fails only when messages come round again. -/
theorem landFrom_error {e : Error} (h : script.landFrom seen s = .error e) :
    ∃ t, e = .runawayScript t := by
  induction seen, s using landFrom.induct script with
  | case1 seen s hnone =>
    rw [landFrom_of_none hnone] at h
    cases h
  | case2 seen s b hb hmessage hagain =>
    rw [landFrom_of_message hb hmessage, if_pos hagain] at h
    cases h
    exact ⟨b.state, rfl⟩
  | case3 seen s b hb hmessage hfresh ih =>
    rw [landFrom_of_message hb hmessage, if_neg hfresh, Outcome.map_error_iff] at h
    exact ih h
  | case4 seen s b hb hwaits =>
    rw [landFrom_of_waits hb (by simpa using hwaits)] at h
    cases h

theorem Accepted.wellFormed (h : script.Accepted) :
    WellFormed script.entries.rows script.blocks.rows .permissive := by
  obtain ⟨entries, blocks, cycles, hbuild⟩ := h
  exact (wellFormed_rows_of_build hbuild).permissive

/-- From a state of the script a landing comes to a block that waits, or to the end. -/
theorem Accepted.land_rests (h : script.Accepted) (hs : script.HasState s)
    (hland : script.land s = .ok (rest, messages)) : rest = finished ∨ script.Waits rest := by
  have hstate : script.HasState rest :=
    land_preserves (fun _ _ _ hb _ ht => h.wellFormed.hasState_target hb ht) hs hland
  rcases hstate with hfin | hblock
  · exact Or.inl hfin
  · obtain ⟨b, hb⟩ := Option.isSome_iff_exists.1 hblock
    exact Or.inr ⟨b, hb, landFrom_not_message hland hb⟩

end Script

namespace Participant

variable {script : Script} {p q : Participant} {e : Error} {key input : String}

/-- An answer that a user gave at a block that waits. -/
structure Gave (script : Script) (user : UserId) (s : State) (a : Answer) : Prop where
  state : a.state = s
  waits : script.Waits s
  user : a.user = user
  text : a.text ≠ ""

/-- A participant at the end of a script or at a block that waits, with answers to such blocks. -/
structure Rests (script : Script) (p : Participant) : Prop where
  state : p.state = finished ∨ script.Waits p.state
  answers : ∀ s a, p.answerAt? s = some a → Gave script p.address.user s a

namespace Rests

theorem fresh (script : Script) (address : Address) : Rests script (.fresh address) where
  state := Or.inl rfl
  answers s a h := by cases h

theorem clear (h : Rests script p) (states : List State) : Rests script (p.clear states) where
  state := h.state
  answers s a ha := by
    apply h.answers
    by_cases hs : s ∈ states
    · rw [answerAt?_clear_of_mem p hs] at ha
      cases ha
    · rw [answerAt?_clear_of_not_mem p hs] at ha
      exact ha

theorem moveTo (h : Rests script p) {s : State} (hs : s = finished ∨ script.Waits s) :
    Rests script (p.moveTo s) where
  state := hs
  answers := h.answers

theorem record (h : Rests script p) {a : Answer} (ha : Gave script p.address.user a.state a) :
    Rests script (p.record a) where
  state := h.state
  answers s b hb := by
    by_cases hs : a.state = s
    · subst hs
      rw [answerAt?_record_self] at hb
      cases hb
      exact ha
    · rw [answerAt?_record_of_ne p hs] at hb
      exact h.answers s b hb

/-- An entry takes a participant from one rest to another. -/
theorem enter (hscript : script.Accepted) (h : Rests script p) {messages : List Message}
    (henter : p.enter script key = .ok (messages, q)) : Rests script q := by
  obtain ⟨entry, reached, rest, hentry, _, hland, rfl⟩ := enter_ok_iff.1 henter
  have hs := hscript.wellFormed.hasState_entry hentry
  exact (h.clear reached).moveTo (hscript.land_rests hs hland)

/-- So does an input, and its answer is given at the block that waited for it. -/
theorem reply (hscript : script.Accepted) (h : Rests script p) {t : Transition}
    (hreply : p.reply script input = .ok (t, q)) : Rests script q := by
  obtain ⟨r, hprocess, rfl⟩ := reply_ok_iff.1 hreply
  rcases process_ok_iff.1 hprocess with
    ⟨_, rfl, rfl⟩ | ⟨hfin, b, rest, _, hb, hfilled, hland, rfl, rfl⟩
  · exact h
  · have hwaits : script.Waits p.state := h.state.resolve_left hfin
    have hmessage : b.isMessage = false := by
      obtain ⟨c, hc, hwaits⟩ := hwaits
      rw [hb] at hc
      cases hc
      exact hwaits
    have hs := hscript.wellFormed.hasState_target hb (Block.route_mem_targets b input)
    have hmoved := h.moveTo (hscript.land_rests hs hland)
    have htext : input ≠ "" := fun hempty => hfilled ⟨hmessage, hempty⟩
    have hstate : b.state = p.state := Table.key_of_get? hb
    have htakes : p.takes b input = some ⟨p.address.user, b.state, input⟩ := by
      simp [takes, hmessage]
    rw [recordAnswer, htakes]
    apply hmoved.record
    exact ⟨rfl, hstate ▸ hwaits, rfl, htext⟩

end Rests

/-- An entry at an entry point of the script fails only when messages come round again. -/
theorem enter_error_of_entry (hscript : script.Accepted) {entry : EntryPoint}
    (hentry : script.entry? key = some entry) (h : p.enter script key = .error e) :
    ∃ s, e = .runawayScript s := by
  unfold enter at h
  obtain ⟨reached, hreached⟩ :=
    hscript.wellFormed.exists_reachableFrom (hscript.wellFormed.hasState_entry hentry)
  simp only [hentry, hreached, Outcome.ok_bind, Outcome.bind_error_iff] at h
  rcases h with hland | ⟨_, _, hpure⟩
  · exact Script.landFrom_error hland
  · cases hpure

/-- An entry fails when its entry point is unknown, or when messages come round again. -/
theorem enter_error (hscript : script.Accepted) (h : p.enter script key = .error e) :
    e = .entryNotFound key ∨ ∃ s, e = .runawayScript s := by
  cases hentry : script.entry? key with
  | none =>
    rw [enter, hentry] at h
    cases h
    exact Or.inl rfl
  | some entry => exact Or.inr (enter_error_of_entry hscript hentry h)

/-- An input for a participant at rest fails when it is an empty answer to the block that waits, or
when messages come round again. -/
theorem Rests.reply_error (h : Rests script p) (herror : p.reply script input = .error e) :
    (e = .invalidInput (.emptyAnswer p.state) ∧ input = "" ∧ p.state ≠ finished) ∨
      ∃ s, e = .runawayScript s := by
  have hprocess : p.process script input = .error e := by
    rcases Outcome.bind_error_iff.1 herror with hprocess | ⟨_, _, hpure⟩
    · exact hprocess
    · cases hpure
  by_cases hfin : p.state = finished
  · rw [process_of_finished hfin] at hprocess
    cases hprocess
  · obtain ⟨b, hb, hwaits⟩ := h.state.resolve_left hfin
    have hstate : b.state = p.state := Table.key_of_get? hb
    rw [process_of_block hfin hb] at hprocess
    by_cases hempty : b.isMessage = false ∧ input = ""
    · rw [if_pos hempty] at hprocess
      cases hprocess
      exact Or.inl ⟨by rw [hstate], hempty.2, hfin⟩
    · rw [if_neg hempty, Outcome.map_error_iff] at hprocess
      exact Or.inr (Script.landFrom_error hprocess)

/-- An empty input for a participant at a block that waits is refused. -/
theorem Rests.reply_empty (h : Rests script p) (hfin : p.state ≠ finished) :
    p.reply script "" = .error (.invalidInput (.emptyAnswer p.state)) := by
  obtain ⟨b, hb, hwaits⟩ := h.state.resolve_left hfin
  have hstate : b.state = p.state := Table.key_of_get? hb
  rw [Participant.reply, process_of_block hfin hb, if_pos ⟨hwaits, rfl⟩, hstate]
  rfl

theorem reply_of_finished (h : p.state = finished) : p.reply script input = .ok ({}, p) := by
  rw [reply, process_of_finished h]
  rfl

end Participant

end ScriptedChat
