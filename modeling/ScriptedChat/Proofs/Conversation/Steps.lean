import ScriptedChat.Conversation
import ScriptedChat.Proofs.Script.Graph

/-!
What one step of a conversation does. Entering looks up the entry point, forgets the answers at
all states that its target reaches and lands; an input leads on from the block that waits, and
the answer to a waiting block is recorded. Landing follows edges only.
-/
namespace ScriptedChat

namespace Script

variable {script : Script} {seen : List State} {s : State} {b : Block}

theorem landFrom_of_none (h : script.block? s = none) : script.landFrom seen s = .ok (s, []) := by
  rw [landFrom]
  split
  · rfl
  · rename_i b hb
    rw [h] at hb
    cases hb

theorem landFrom_of_waits (h : script.block? s = some b) (hwaits : b.isMessage = false) :
    script.landFrom seen s = .ok (s, [b.message]) := by
  rw [landFrom]
  split
  · rename_i hnone
    rw [h] at hnone
    cases hnone
  · rename_i c hc
    rw [h] at hc
    cases hc
    simp [hwaits]

theorem landFrom_of_message (h : script.block? s = some b) (hmessage : b.isMessage = true) :
    script.landFrom seen s =
      if b.state ∈ seen then .error (.runawayScript b.state)
      else (script.landFrom (b.state :: seen) b.next).map fun (rest, messages) =>
        (rest, b.message :: messages) := by
  rw [landFrom]
  split
  · rename_i hnone
    rw [h] at hnone
    cases hnone
  · rename_i c hc
    rw [h] at hc
    cases hc
    rw [if_pos hmessage]
    by_cases hagain : b.state ∈ seen
    · simp [hagain]
    · simp only [hagain, dif_neg, if_false, not_false_eq_true]
      rfl

/-- A property that holds of a state and that edges pass on holds where the landing ends. -/
theorem landFrom_preserves {P : State → Prop}
    (hP : ∀ s b, P s → script.block? s = some b → ∀ t ∈ b.targets, P t) {rest : State}
    {messages : List Message} (hs : P s) (h : script.landFrom seen s = .ok (rest, messages)) :
    P rest := by
  induction seen, s using landFrom.induct script generalizing messages with
  | case1 seen s hnone =>
    rw [landFrom_of_none hnone] at h
    cases h
    exact hs
  | case2 seen s b hb hmessage hagain =>
    rw [landFrom_of_message hb hmessage, if_pos hagain] at h
    cases h
  | case3 seen s b hb hmessage hfresh ih =>
    rw [landFrom_of_message hb hmessage, if_neg hfresh, Outcome.map_ok_iff] at h
    obtain ⟨⟨rest', messages'⟩, hland, heq⟩ := h
    cases heq
    have hnext : b.next ∈ b.targets := Block.mem_targets.2 (Or.inl rfl)
    exact ih (hP s b hs hb b.next hnext) hland
  | case4 seen s b hb hwaits =>
    rw [landFrom_of_waits hb (by simpa using hwaits)] at h
    cases h
    exact hs

theorem land_preserves {P : State → Prop}
    (hP : ∀ s b, P s → script.block? s = some b → ∀ t ∈ b.targets, P t) {rest : State}
    {messages : List Message} (hs : P s) (h : script.land s = .ok (rest, messages)) : P rest :=
  landFrom_preserves hP hs h

end Script

namespace Participant

variable {p q : Participant} {script : Script}

@[simp]
theorem answerAt?_moveTo (p : Participant) (s t : State) :
    (p.moveTo s).answerAt? t = p.answerAt? t := rfl

theorem recordAnswer_address (p : Participant) (t : Transition) :
    (p.recordAnswer t).address = p.address := by
  unfold recordAnswer
  split
  · rfl
  · rfl

theorem answerAt?_record_self (p : Participant) (a : Answer) :
    (p.record a).answerAt? a.state = some a :=
  Table.get?_insert_self p.answers a

theorem answerAt?_record_of_ne (p : Participant) {a : Answer} {s : State} (h : a.state ≠ s) :
    (p.record a).answerAt? s = p.answerAt? s :=
  Table.get?_insert_of_ne p.answers h

theorem answerAt?_clear_of_mem (p : Participant) {states : List State} {s : State}
    (h : s ∈ states) : (p.clear states).answerAt? s = none := by
  refine Table.get?_eq_none_iff.2 fun a ha heq => ?_
  have hout := (Table.mem_filter.1 ha).2
  rw [heq] at hout
  simp [h] at hout

theorem answerAt?_clear_of_not_mem (p : Participant) {states : List State} {s : State}
    (h : s ∉ states) : (p.clear states).answerAt? s = p.answerAt? s := by
  unfold clear answerAt?
  rw [Table.get?_filter]
  cases ha : p.answers.get? s with
  | none => rfl
  | some a =>
    have hkey : a.state = s := Table.key_of_get? ha
    simp [hkey, h]

theorem enter_ok_iff {key : String} {messages : List Message} :
    p.enter script key = .ok (messages, q) ↔
      ∃ e reached rest, script.entry? key = some e ∧
        script.blocks.reachableFrom e.state = .ok reached ∧
        script.land e.state = .ok (rest, messages) ∧ q = (p.clear reached).moveTo rest := by
  unfold enter
  cases he : script.entry? key with
  | none => simp
  | some e =>
    simp only [Outcome.bind_ok_iff, Outcome.pure_eq, Except.ok.injEq, Prod.mk.injEq]
    constructor
    · rintro ⟨reached, hreached, ⟨rest, _⟩, hland, rfl, rfl⟩
      exact ⟨e, reached, rest, rfl, hreached, hland, rfl⟩
    · rintro ⟨_, reached, rest, heq, hreached, hland, rfl⟩
      cases heq
      exact ⟨reached, hreached, (rest, messages), hland, rfl, rfl⟩

theorem enter_address {key : String} {messages : List Message}
    (h : p.enter script key = .ok (messages, q)) : q.address = p.address := by
  obtain ⟨_, _, _, _, _, _, rfl⟩ := enter_ok_iff.1 h
  rfl

/-- The answer that a block takes from an input: a message takes none. -/
def takes (p : Participant) (b : Block) (input : String) : Option Answer :=
  if b.isMessage then none else some ⟨p.address.user, b.state, input⟩

theorem process_of_finished {input : String} (h : p.state = finished) :
    p.process script input = .ok ({}, p) := by
  simp [process, isFinished, h]

theorem process_of_none {input : String} (hfin : p.state ≠ finished)
    (h : script.block? p.state = none) :
    p.process script input = .error (.blockNotFound p.state) := by
  simp [process, isFinished, hfin, h]

theorem process_of_block {input : String} {b : Block} (hfin : p.state ≠ finished)
    (h : script.block? p.state = some b) :
    p.process script input =
      if b.isMessage = false ∧ input = "" then .error (.invalidInput (.emptyAnswer b.state))
      else (script.land (b.route input)).map fun (rest, messages) =>
        (⟨messages, p.takes b input⟩, p.moveTo rest) := by
  cases hmessage : b.isMessage with
  | true =>
    simp only [process, isFinished, hfin, h, hmessage, takes]
    rfl
  | false =>
    by_cases hempty : input = ""
    · simp [process, isFinished, hfin, h, hmessage, Answer.make, hempty, Except.map]
    · simp only [process, isFinished, hfin, h, hmessage, takes, Answer.make, hempty]
      rfl

/-- An input that succeeds either meets a finished participant, or moves the participant on from
the block that it stands at. -/
theorem process_ok_iff {input : String} {t : Transition} :
    p.process script input = .ok (t, q) ↔
      (p.state = finished ∧ t = {} ∧ q = p) ∨
      (p.state ≠ finished ∧ ∃ b rest messages, script.block? p.state = some b ∧
        ¬ (b.isMessage = false ∧ input = "") ∧
        script.land (b.route input) = .ok (rest, messages) ∧
        t = ⟨messages, p.takes b input⟩ ∧ q = p.moveTo rest) := by
  by_cases hfin : p.state = finished
  · rw [process_of_finished hfin]
    simp only [hfin, Except.ok.injEq, Prod.mk.injEq, true_and, ne_eq, not_true_eq_false,
      false_and, or_false]
    exact ⟨fun h => ⟨h.1.symm, h.2.symm⟩, fun h => ⟨h.1.symm, h.2.symm⟩⟩
  · cases hb : script.block? p.state with
    | none =>
      rw [process_of_none hfin hb]
      simp [hfin]
    | some b =>
      rw [process_of_block hfin hb]
      by_cases hempty : b.isMessage = false ∧ input = ""
      · simp [hfin, hempty]
      · rw [if_neg hempty, Outcome.map_ok_iff]
        constructor
        · rintro ⟨⟨rest, messages⟩, hland, heq⟩
          cases heq
          exact Or.inr ⟨hfin, b, rest, messages, rfl, hempty, hland, rfl, rfl⟩
        · rintro (⟨hfin', _⟩ | ⟨_, c, rest, messages, hc, _, hland, rfl, rfl⟩)
          · exact absurd hfin' hfin
          · cases hc
            exact ⟨(rest, messages), hland, rfl⟩

theorem reply_ok_iff {input : String} {t : Transition} :
    p.reply script input = .ok (t, q) ↔
      ∃ r, p.process script input = .ok (t, r) ∧ q = r.recordAnswer t := by
  rw [reply, Outcome.bind_ok_iff]
  constructor
  · rintro ⟨⟨t', r⟩, hprocess, heq⟩
    cases heq
    exact ⟨r, hprocess, rfl⟩
  · rintro ⟨r, hprocess, rfl⟩
    exact ⟨(t, r), hprocess, rfl⟩

theorem reply_address {input : String} {t : Transition} (h : p.reply script input = .ok (t, q)) :
    q.address = p.address := by
  obtain ⟨r, hprocess, rfl⟩ := reply_ok_iff.1 h
  rw [recordAnswer_address]
  rcases process_ok_iff.1 hprocess with ⟨_, _, rfl⟩ | ⟨_, _, _, _, _, _, _, _, rfl⟩
  · rfl
  · rfl

end Participant

/-- What a mailing does to a participant that it finds. -/
def Mailing.visit (mailing : Mailing) (script : Script) (p : Participant) :
    Except Error (Option (List Message) × Participant) :=
  if p.state = mailing.requiredState then
    (p.enter script mailing.entryKey).map fun (messages, p) => (some messages, p)
  else .ok (none, p)

/-- A mailing leaves a participant as it is, or takes it to an entry point. -/
theorem Mailing.visit_cases {mailing : Mailing} {script : Script} {p q : Participant}
    {outcome : Option (List Message)} (h : mailing.visit script p = .ok (outcome, q)) :
    q = p ∨ ∃ messages, p.enter script mailing.entryKey = .ok (messages, q) := by
  unfold visit at h
  split at h
  · obtain ⟨⟨messages, r⟩, henter, heq⟩ := Outcome.map_ok_iff.1 h
    cases heq
    exact Or.inr ⟨messages, henter⟩
  · cases h
    exact Or.inl rfl

theorem Mailing.visit_address {mailing : Mailing} {script : Script} {p q : Participant}
    {outcome : Option (List Message)} (h : mailing.visit script p = .ok (outcome, q)) :
    q.address = p.address := by
  rcases visit_cases h with rfl | ⟨messages, henter⟩
  · rfl
  · exact Participant.enter_address henter

end ScriptedChat
