import ScriptedChat.Proofs.Conversation.Landing

/-!
Landing, told by the chain of states that it goes over. From a message the chain goes on to the
next state, and it ends where there is no message. A landing on a state whose chain ends succeeds
at that end and sends the message of every block on the chain; on a chain that does not end it
fails at the first state that comes round again. Guarding against messages that come round is
thus no restriction: the landing is the plain recursion that continues after each message,
wherever that recursion ends.
-/
namespace ScriptedChat

namespace Script

variable {script : Script} {seen : List State} {s t u rest : State} {b : Block}
  {messages : List Message} {i k n : Nat}

/-- Where a landing goes straight on to. -/
def onward (script : Script) (s : State) : Option State :=
  match script.block? s with
  | some b => if b.isMessage then some b.next else none
  | none => none

theorem onward_of_none (h : script.block? s = none) : script.onward s = none := by
  rw [onward, h]

theorem onward_of_waits (h : script.block? s = some b) (hwaits : b.isMessage = false) :
    script.onward s = none := by
  rw [onward, h]
  exact if_neg (by simp [hwaits])

theorem onward_of_message (h : script.block? s = some b) (hmessage : b.isMessage = true) :
    script.onward s = some b.next := by
  rw [onward, h]
  exact if_pos hmessage

theorem advances_of_onward (h : script.onward s = some u) : script.Advances s u := by
  unfold onward at h
  split at h
  · rename_i b hb
    split at h
    · rename_i hmessage
      exact ⟨b, hb, hmessage, Option.some.inj h⟩
    · cases h
  · cases h

/-- The states that a landing goes over, as long as there are messages to go on from. -/
def chain (script : Script) (s : State) : Nat → Option State
  | 0 => some s
  | i + 1 => (script.chain s i).bind script.onward

/-- The messages of the blocks on a chain up to an index. -/
def sent (script : Script) (s : State) (n : Nat) : List Message :=
  (List.range (n + 1)).filterMap fun i => ((script.chain s i).bind script.block?).map Block.message

/-- Whether a chain ends at an index, with a state. -/
structure EndsAt (script : Script) (s : State) (n : Nat) (t : State) : Prop where
  comes : script.chain s n = some t
  stops : script.onward t = none

/-- Whether a chain goes on for ever. -/
def Endless (script : Script) (s : State) : Prop := ∀ i, (script.chain s i).isSome

/-- Whether an index is the first one at which a chain comes to a state that is on it already. -/
structure ComesRound (script : Script) (s : State) (k : Nat) (t : State) : Prop where
  comes : script.chain s k = some t
  again : ∃ j < k, script.chain s j = some t
  first : ∀ i < k, ∀ j < i, script.chain s j ≠ script.chain s i

/-- The plain recursion: after a message it continues as if the user had given an empty input. -/
inductive Continues (script : Script) : State → State → List Message → Prop
  | missing (s : State) (hb : script.block? s = none) : Continues script s s []
  | waits (s : State) (b : Block) (hb : script.block? s = some b) (hwaits : b.isMessage = false) :
      Continues script s s [b.message]
  | message (s rest : State) (b : Block) (messages : List Message)
      (hb : script.block? s = some b) (hmessage : b.isMessage = true)
      (hcontinues : Continues script (b.route "") rest messages) :
      Continues script s rest (b.message :: messages)

section Chain

theorem chain_add (script : Script) (s : State) (i j : Nat) :
    script.chain s (i + j) = (script.chain s i).bind fun u => script.chain u j := by
  induction j with
  | zero => exact (Option.bind_fun_some _).symm
  | succ j ih =>
    show (script.chain s (i + j)).bind script.onward = _
    rw [ih, Option.bind_assoc]
    rfl

/-- A chain that goes on is the chain of the next state, one index later. -/
theorem chain_succ_of_onward (h : script.onward s = some u) (i : Nat) :
    script.chain s (i + 1) = script.chain u i := by
  rw [Nat.add_comm, chain_add]
  show (script.onward s).bind (fun u => script.chain u i) = script.chain u i
  rw [h]
  rfl

theorem chain_isSome_of_le (hik : i ≤ k) (h : (script.chain s k).isSome) :
    (script.chain s i).isSome := by
  obtain ⟨j, rfl⟩ := Nat.exists_eq_add_of_le hik
  rw [chain_add] at h
  exact Option.isSome_of_isSome_bind h

theorem EndsAt.eq_none_of_lt (h : script.EndsAt s n t) (hni : n < i) :
    script.chain s i = none := by
  have hnext : script.chain s (n + 1) = none := by
    show (script.chain s n).bind script.onward = none
    rw [h.comes]
    exact h.stops
  cases hi : script.chain s i with
  | none => rfl
  | some u =>
    have hsome := chain_isSome_of_le hni (Option.isSome_of_eq_some hi)
    rw [hnext] at hsome
    cases hsome

theorem EndsAt.not_endless (h : script.EndsAt s n t) : ¬ script.Endless s := by
  intro hendless
  have hsome := hendless (n + 1)
  rw [h.eq_none_of_lt (Nat.lt_succ_self n)] at hsome
  cases hsome

/-- A chain has one end at most. -/
theorem EndsAt.unique {m : Nat} (h : script.EndsAt s n t) (h' : script.EndsAt s m u) :
    n = m ∧ t = u := by
  have hnm : n = m := by
    rcases Nat.lt_trichotomy n m with hlt | heq | hgt
    · have hnone := h.eq_none_of_lt hlt
      rw [h'.comes] at hnone
      cases hnone
    · exact heq
    · have hnone := h'.eq_none_of_lt hgt
      rw [h.comes] at hnone
      cases hnone
  subst hnm
  exact ⟨rfl, Option.some.inj (h.comes.symm.trans h'.comes)⟩

/-- A chain that comes round never ends: after the state that comes again it repeats itself. -/
theorem ComesRound.endless (h : script.ComesRound s k t) : script.Endless s := by
  obtain ⟨j, hjk, hj⟩ := h.again
  intro i
  induction i using Nat.strongRecOn with
  | ind i ih =>
    rcases Nat.lt_or_ge k i with hki | hik
    · obtain ⟨d, rfl⟩ := Nat.exists_eq_add_of_lt hki
      have hearlier : script.chain s (k + d + 1) = script.chain s (j + (d + 1)) := by
        rw [Nat.add_assoc, chain_add, chain_add, h.comes, hj]
      rw [hearlier]
      exact ih _ (by omega)
    · exact chain_isSome_of_le hik (Option.isSome_of_eq_some h.comes)

/-- A chain first comes round at one index only. -/
theorem ComesRound.unique {m : Nat} (h : script.ComesRound s k t)
    (h' : script.ComesRound s m u) : k = m ∧ t = u := by
  have hkm : k = m := by
    rcases Nat.lt_trichotomy k m with hlt | heq | hgt
    · obtain ⟨j, hj, hjt⟩ := h.again
      exact absurd (hjt.trans h.comes.symm) (h'.first k hlt j hj)
    · exact heq
    · obtain ⟨j, hj, hju⟩ := h'.again
      exact absurd (hju.trans h'.comes.symm) (h.first m hgt j hj)
  subst hkm
  exact ⟨rfl, Option.some.inj (h.comes.symm.trans h'.comes)⟩

end Chain

section Recursion

theorem sent_zero (script : Script) (s : State) :
    script.sent s 0 = ((script.block? s).map Block.message).toList := by
  cases hb : script.block? s with
  | none => simp [sent, chain, hb]
  | some b => simp [sent, chain, hb]

theorem sent_succ (hb : script.block? s = some b) (honward : script.onward s = some u) (n : Nat) :
    script.sent s (n + 1) = b.message :: script.sent u n := by
  have hlater : (fun i => ((script.chain s (i + 1)).bind script.block?).map Block.message) =
      fun i => ((script.chain u i).bind script.block?).map Block.message := by
    funext i
    rw [chain_succ_of_onward honward]
  rw [sent, List.range_succ_eq_map, List.filterMap_cons, List.filterMap_map, sent, ← hlater]
  simp only [chain, Option.bind_some, hb, Option.map_some]
  rfl

theorem EndsAt.zero (h : script.onward s = none) : script.EndsAt s 0 s := ⟨rfl, h⟩

theorem EndsAt.succ (h : script.onward s = some u) (hend : script.EndsAt u n t) :
    script.EndsAt s (n + 1) t :=
  ⟨(chain_succ_of_onward h n).trans hend.comes, hend.stops⟩

theorem EndsAt.tail (h : script.EndsAt s (n + 1) t) :
    ∃ u, script.onward s = some u ∧ script.EndsAt u n t := by
  cases honward : script.onward s with
  | none =>
    have hnone := (EndsAt.zero honward).eq_none_of_lt (Nat.succ_pos n)
    rw [h.comes] at hnone
    cases hnone
  | some u => exact ⟨u, rfl, (chain_succ_of_onward honward n).symm.trans h.comes, h.stops⟩

theorem route_of_message (hmessage : b.isMessage = true) (input : String) :
    b.route input = b.next := by
  obtain ⟨state, next, title, text, kind⟩ := b
  cases kind with
  | message => rfl
  | question => cases hmessage
  | selection choices => cases hmessage

theorem Continues.endsAt (h : script.Continues s rest messages) :
    ∃ n, script.EndsAt s n rest ∧ messages = script.sent s n := by
  induction h with
  | missing s hb => exact ⟨0, .zero (onward_of_none hb), by rw [sent_zero, hb]; rfl⟩
  | waits s b hb hwaits => exact ⟨0, .zero (onward_of_waits hb hwaits), by rw [sent_zero, hb]; rfl⟩
  | message s rest b messages hb hmessage _ ih =>
    obtain ⟨n, hend, rfl⟩ := ih
    rw [route_of_message hmessage] at hend ⊢
    have honward := onward_of_message hb hmessage
    exact ⟨n + 1, hend.succ honward, (sent_succ hb honward n).symm⟩

theorem continues_of_onward (h : script.onward s = none) :
    script.Continues s s (script.sent s 0) := by
  rw [sent_zero]
  cases hb : script.block? s with
  | none => exact .missing s hb
  | some b =>
    cases hmessage : b.isMessage with
    | false => exact .waits s b hb hmessage
    | true =>
      rw [onward_of_message hb hmessage] at h
      cases h

theorem EndsAt.continues (h : script.EndsAt s n t) : script.Continues s t (script.sent s n) := by
  induction n generalizing s with
  | zero =>
    have hst : s = t := Option.some.inj h.comes
    subst hst
    exact continues_of_onward h.stops
  | succ n ih =>
    obtain ⟨u, honward, hend⟩ := h.tail
    obtain ⟨b, hb, hmessage, rfl⟩ := advances_of_onward honward
    rw [sent_succ hb honward]
    refine .message s t b _ hb hmessage ?_
    rw [route_of_message hmessage]
    exact ih hend

/-- The recursion ends exactly where the chain does, with the messages on it. -/
theorem continues_iff : script.Continues s rest messages ↔
    ∃ n, script.EndsAt s n rest ∧ messages = script.sent s n := by
  constructor
  · exact Continues.endsAt
  · rintro ⟨n, hend, rfl⟩
    exact hend.continues

end Recursion

section Landing

/-- Whether an index is the first one at which a chain comes to a state that is on it already, or
that was seen before it. -/
structure MeetsAgain (script : Script) (seen : List State) (s : State) (k : Nat) (t : State) :
    Prop where
  comes : script.chain s k = some t
  again : t ∈ seen ∨ ∃ j < k, script.chain s j = some t
  first : ∀ i < k, ∀ u, script.chain s i = some u → u ∉ seen ∧ ∀ j < i, script.chain s j ≠ some u

theorem MeetsAgain.succ (hfresh : s ∉ seen) (h : script.onward s = some u)
    (hmeets : script.MeetsAgain (s :: seen) u k t) : script.MeetsAgain seen s (k + 1) t where
  comes := (chain_succ_of_onward h k).trans hmeets.comes
  again := by
    rcases hmeets.again with hseen | ⟨j, hjk, hj⟩
    · rcases List.mem_cons.1 hseen with rfl | hseen
      · exact Or.inr ⟨0, Nat.succ_pos k, rfl⟩
      · exact Or.inl hseen
    · exact Or.inr ⟨j + 1, Nat.succ_lt_succ hjk, (chain_succ_of_onward h j).trans hj⟩
  first i hik v hv := by
    cases i with
    | zero =>
      cases Option.some.inj hv
      exact ⟨hfresh, fun j hj => absurd hj (Nat.not_lt_zero j)⟩
    | succ i =>
      rw [chain_succ_of_onward h] at hv
      obtain ⟨hseen, hearlier⟩ := hmeets.first i (Nat.lt_of_succ_lt_succ hik) v hv
      rw [List.mem_cons, not_or] at hseen
      refine ⟨hseen.2, ?_⟩
      intro j hj
      cases j with
      | zero => exact fun heq => hseen.1 (Option.some.inj heq).symm
      | succ j =>
        rw [chain_succ_of_onward h]
        exact hearlier j (Nat.lt_of_succ_lt_succ hj)

/-- With nothing seen before, the first state that is met again is the first that comes round. -/
theorem MeetsAgain.comesRound (h : script.MeetsAgain [] s k t) : script.ComesRound s k t where
  comes := h.comes
  again := h.again.resolve_left List.not_mem_nil
  first i hik j hji := by
    have hsome := chain_isSome_of_le (Nat.le_of_lt hik) (Option.isSome_of_eq_some h.comes)
    obtain ⟨u, hu⟩ := Option.isSome_iff_exists.1 hsome
    rw [hu]
    exact (h.first i hik u hu).2 j hji

/-- A landing comes to the end of the chain, or to a message that it has met. Either way every
message before is a block that was not yet seen. -/
theorem landFrom_chain (script : Script) (seen : List State) (s : State) :
    (∃ n t, script.EndsAt s n t ∧ n ≤ script.unseen seen ∧
      script.landFrom seen s = .ok (t, script.sent s n)) ∨
    (∃ k t, script.MeetsAgain seen s k t ∧ k ≤ script.unseen seen ∧
      script.landFrom seen s = .error (.runawayScript t)) := by
  induction seen, s using landFrom.induct script with
  | case1 seen s hnone =>
    refine Or.inl ⟨0, s, .zero (onward_of_none hnone), Nat.zero_le _, ?_⟩
    rw [landFrom_of_none hnone, sent_zero, hnone]
    rfl
  | case2 seen s b hb hmessage hagain =>
    have hstate : b.state = s := Table.key_of_get? hb
    refine Or.inr ⟨0, s, ⟨rfl, Or.inl (hstate ▸ hagain), ?_⟩, Nat.zero_le _, ?_⟩
    · intro i hi
      exact absurd hi (Nat.not_lt_zero i)
    · rw [landFrom_of_message hb hmessage, if_pos hagain, hstate]
  | case3 seen s b hb hmessage hfresh ih =>
    have hstate : b.state = s := Table.key_of_get? hb
    have honward := onward_of_message hb hmessage
    have hunseen := unseen_cons_lt (Table.mem_of_get? hb) hfresh
    rw [landFrom_of_message hb hmessage, if_neg hfresh]
    rcases ih with ⟨n, t, hend, hle, hland⟩ | ⟨k, t, hmeets, hle, hland⟩
    · refine Or.inl ⟨n + 1, t, hend.succ honward, by omega, ?_⟩
      rw [hland, sent_succ hb honward]
      rfl
    · rw [hstate] at hfresh hmeets
      refine Or.inr ⟨k + 1, t, hmeets.succ hfresh honward, by omega, ?_⟩
      rw [hland]
      rfl
  | case4 seen s b hb hwaits =>
    have hwaits : b.isMessage = false := by simpa using hwaits
    refine Or.inl ⟨0, s, .zero (onward_of_waits hb hwaits), Nat.zero_le _, ?_⟩
    rw [landFrom_of_waits hb hwaits, sent_zero, hb]
    rfl

theorem unseen_le_length (script : Script) (seen : List State) :
    script.unseen seen ≤ script.blocks.rows.length := List.countP_le_length

/-- A chain ends, or comes round, within as many steps as there are blocks; a landing on its first
state ends accordingly. -/
theorem land_chain (script : Script) (s : State) :
    (∃ n t, script.EndsAt s n t ∧ n ≤ script.blocks.rows.length ∧
      script.land s = .ok (t, script.sent s n)) ∨
    (∃ k t, script.ComesRound s k t ∧ k ≤ script.blocks.rows.length ∧
      script.land s = .error (.runawayScript t)) := by
  have hbound := script.unseen_le_length []
  rcases script.landFrom_chain [] s with ⟨n, t, hend, hle, hland⟩ | ⟨k, t, hmeets, hle, hland⟩
  · exact Or.inl ⟨n, t, hend, Nat.le_trans hle hbound, hland⟩
  · exact Or.inr ⟨k, t, hmeets.comesRound, Nat.le_trans hle hbound, hland⟩

end Landing

end Script

namespace Participant

variable {p : Participant} {script : Script} {s : State}

/-- The outcome for a participant that an entry or an input sends to a state, after the checks
that each of them makes of its own: an entry needs an entry point from which the graph can be
followed, and an input a block to leave, which takes no empty answer if it waits for one. -/
structure SentTo (p : Participant) (script : Script) (s : State)
    (outcome : Except Error (State × List Message)) : Prop where
  enter : ∀ key e reached, script.entry? key = some e → e.state = s →
    script.blocks.reachableFrom s = .ok reached →
    p.enter script key = outcome.map fun (rest, messages) =>
      (messages, (p.clear reached).moveTo rest)
  process : ∀ b input, p.state ≠ finished → script.block? p.state = some b →
    ¬ (b.isMessage = false ∧ input = "") → b.route input = s →
    p.process script input = outcome.map fun (rest, messages) =>
      (⟨messages, p.takes b input⟩, p.moveTo rest)

/-- Both ways a participant is sent on by a landing. -/
theorem sentTo_land (p : Participant) (script : Script) (s : State) :
    p.SentTo script s (script.land s) where
  enter key e reached he hstate hreached := by
    subst hstate
    simp only [Participant.enter, he, hreached, Outcome.ok_bind]
    cases script.land e.state <;> rfl
  process b input hfin hb hfilled hroute := by
    subst hroute
    rw [process_of_block hfin hb, if_neg hfilled]

/-- A participant that is sent to a state whose chain ends goes to that end and gets the messages
on the way, which are those of the plain recursion. If the chain does not end, then neither does
the recursion, and the step fails with the first state that comes round. Every chain does one of
the two, and it takes no more steps than there are blocks to find out which. -/
theorem sentTo_chain (script : Script) (p : Participant) (s : State) :
    (∀ n t, script.EndsAt s n t →
      n ≤ script.blocks.rows.length ∧
      (∀ rest messages, script.Continues s rest messages ↔
        rest = t ∧ messages = script.sent s n) ∧
      p.SentTo script s (.ok (t, script.sent s n))) ∧
    (script.Endless s → ∃ k t, script.ComesRound s k t ∧ k ≤ script.blocks.rows.length ∧
      (∀ rest messages, ¬ script.Continues s rest messages) ∧
      p.SentTo script s (.error (.runawayScript t))) ∧
    ((∃ n t, script.EndsAt s n t) ∨ script.Endless s) := by
  have hsent := p.sentTo_land script s
  rcases script.land_chain s with ⟨n, t, hend, hle, hland⟩ | ⟨k, t, hround, hle, hland⟩
  · rw [hland] at hsent
    refine ⟨?_, fun hendless => absurd hendless hend.not_endless, Or.inl ⟨n, t, hend⟩⟩
    intro m u hend'
    obtain ⟨rfl, rfl⟩ := hend.unique hend'
    refine ⟨hle, ?_, hsent⟩
    intro rest messages
    rw [Script.continues_iff]
    constructor
    · rintro ⟨m, hend', rfl⟩
      obtain ⟨rfl, rfl⟩ := hend.unique hend'
      exact ⟨rfl, rfl⟩
    · rintro ⟨rfl, rfl⟩
      exact ⟨n, hend, rfl⟩
  · rw [hland] at hsent
    have hendless := hround.endless
    refine ⟨fun m u hend => absurd hendless hend.not_endless, ?_, Or.inr hendless⟩
    intro _
    refine ⟨k, t, hround, hle, ?_, hsent⟩
    intro rest messages hcontinues
    obtain ⟨m, hend, _⟩ := hcontinues.endsAt
    exact hend.not_endless hendless

/-- A question that leads to two messages and a choice, and a choice that leads to a message
before a loop: an answer to the first comes to rest at the other choice, and the loop is reported
where it closes. -/
theorem sentTo_chain_loop :
    let script := Script.restore [⟨"start", 1⟩, ⟨"loop", 5⟩]
      [⟨1, 2, "Name", "Who are you?", .question⟩, ⟨2, 3, "Hi", "Hello", .message⟩,
        ⟨3, 4, "Rules", "Be nice", .message⟩,
        ⟨4, 0, "Go", "Ready?", .selection [⟨"yes", 1⟩, ⟨"no", 5⟩]⟩,
        ⟨5, 6, "Oh", "Why not", .message⟩, ⟨6, 7, "One", "One", .message⟩,
        ⟨7, 6, "Two", "Two", .message⟩]
    let p : Participant := .restore ⟨⟨1⟩, 7⟩ 1 []
    script.EndsAt 2 2 4 ∧
      p.process script "Ann" = .ok
        (⟨[⟨"Hello", []⟩, ⟨"Be nice", []⟩, ⟨"Ready?", ["yes", "no"]⟩], some ⟨7, 1, "Ann"⟩⟩,
          p.moveTo 4) ∧
      script.Endless 5 ∧ (p.moveTo 4).process script "no" = .error (.runawayScript 6) ∧
      p.enter script "loop" = .error (.runawayScript 6) := by
  intro script p
  have hend : script.EndsAt 2 2 4 := ⟨by decide +kernel, by decide +kernel⟩
  have hround : script.ComesRound 5 3 6 :=
    ⟨by decide +kernel, ⟨1, by decide, by decide +kernel⟩, by decide +kernel⟩
  have hcame := (sentTo_chain script p 2).1 2 4 hend
  obtain ⟨k, t, hround', _, _, hruns⟩ := (sentTo_chain script (p.moveTo 4) 5).2.1 hround.endless
  obtain ⟨k', t', hround'', _, _, hruns'⟩ := (sentTo_chain script p 5).2.1 hround.endless
  obtain ⟨_, rfl⟩ := hround.unique hround'
  obtain ⟨_, rfl⟩ := hround.unique hround''
  refine ⟨hend, ?_, hround.endless, ?_, ?_⟩
  · exact (hcame.2.2.process _ "Ann" (by decide) rfl (by decide) rfl).trans (by decide +kernel)
  · exact hruns.process _ "no" (by decide) rfl (by decide) rfl
  · exact hruns'.enter "loop" _ [5, 6, 7] rfl rfl (by decide +kernel)

end Participant

end ScriptedChat
