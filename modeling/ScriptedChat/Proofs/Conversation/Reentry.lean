import ScriptedChat.Proofs.Conversation.Steps
import ScriptedChat.Proofs.Latest
import ScriptedChat.Proofs.Script.WellFormed

/-!
A flow that is entered again shows no stale answers. From an entry on, however the user goes
on, the participant stays among the states that the target of the entry point reaches. The
answers at these states are those that were given since the entry, the last one at each state;
the answers elsewhere are those from before the entry.
-/
namespace ScriptedChat

/-- An input together with the participant that it is given to. -/
structure Turn where
  participant : Participant
  input : String

namespace Turn

/-- Whether the input succeeds and is the answer of the block that waits at a state. -/
def Answers (script : Script) (s : State) (turn : Turn) : Prop :=
  turn.participant.state = s ∧
    (∃ b, script.block? s = some b ∧ b.isMessage = false) ∧
    ∃ outcome, turn.participant.process script turn.input = .ok outcome

end Turn

namespace Participant

/-- The participant after an input; what a failing input did is discarded. -/
def feed (script : Script) (p : Participant) (input : String) : Participant :=
  match p.reply script input with
  | .ok (_, q) => q
  | .error _ => p

/-- The participant after inputs that are given one by one. -/
def feedAll (script : Script) (p : Participant) (inputs : List String) : Participant :=
  inputs.foldl (feed script) p

/-- The turns that a participant takes on inputs that are given one by one. -/
def turns (script : Script) : Participant → List String → List Turn
  | _, [] => []
  | p, input :: rest => ⟨p, input⟩ :: turns script (p.feed script input) rest

variable {script : Script}

theorem feedAll_concat (p : Participant) (inputs : List String) (input : String) :
    p.feedAll script (inputs ++ [input]) = (p.feedAll script inputs).feed script input := by
  simp [feedAll]

theorem turns_concat (p : Participant) (inputs : List String) (input : String) :
    p.turns script (inputs ++ [input]) =
      p.turns script inputs ++ [⟨p.feedAll script inputs, input⟩] := by
  induction inputs generalizing p with
  | nil => rfl
  | cons first rest ih =>
    show Turn.mk p first :: (p.feed script first).turns script (rest ++ [input]) = _
    rw [ih]
    rfl

/-- An input is without effect, or it moves the participant on and may leave an answer. -/
theorem feed_cases (script : Script) (p : Participant) (input : String) :
    (p.feed script input = p ∧
      ∀ s, s ≠ finished → ¬ Turn.Answers script s ⟨p, input⟩) ∨
    ∃ b rest messages, p.state ≠ finished ∧ script.block? p.state = some b ∧
      script.land (b.route input) = .ok (rest, messages) ∧
      ((b.isMessage = true ∧ p.feed script input = p.moveTo rest) ∨
        (b.isMessage = false ∧ Turn.Answers script p.state ⟨p, input⟩ ∧
          p.feed script input = (p.moveTo rest).record ⟨p.address.user, b.state, input⟩)) := by
  unfold feed
  cases hreply : p.reply script input with
  | error e =>
    refine Or.inl ⟨rfl, ?_⟩
    intro s hne h
    obtain ⟨_, _, ⟨t, q⟩, hprocess⟩ := h
    have hok : p.reply script input = .ok (t, q.recordAnswer t) :=
      reply_ok_iff.2 ⟨q, hprocess, rfl⟩
    rw [hreply] at hok
    cases hok
  | ok outcome =>
    obtain ⟨t, q⟩ := outcome
    obtain ⟨r, hprocess, rfl⟩ := reply_ok_iff.1 hreply
    rcases process_ok_iff.1 hprocess with
      ⟨hfin, rfl, rfl⟩ | ⟨hfin, b, rest, messages, hb, hne, hland, rfl, rfl⟩
    · refine Or.inl ⟨rfl, ?_⟩
      intro s hs h
      exact hs (h.1.symm.trans hfin)
    · refine Or.inr ⟨b, rest, messages, hfin, hb, hland, ?_⟩
      cases hmessage : b.isMessage with
      | true =>
        have htakes : p.takes b input = none := by simp [takes, hmessage]
        rw [htakes]
        exact Or.inl ⟨rfl, rfl⟩
      | false =>
        have htakes : p.takes b input = some ⟨p.address.user, b.state, input⟩ := by
          simp [takes, hmessage]
        rw [htakes] at hprocess ⊢
        exact Or.inr ⟨rfl, ⟨rfl, ⟨b, hb, hmessage⟩, _, hprocess⟩, rfl⟩

/-- The participant never leaves a set of states that edges do not leave. -/
theorem feed_preserves {P : State → Prop}
    (hP : ∀ s b, P s → script.block? s = some b → ∀ t ∈ b.targets, P t) {p : Participant}
    (input : String) (hp : P p.state) : P (p.feed script input).state := by
  rcases feed_cases script p input with
    ⟨heq, _⟩ | ⟨b, rest, messages, _, hb, hland, hmoved⟩
  · rw [heq]
    exact hp
  · have hroute : P (b.route input) := hP p.state b hp hb _ (b.route_mem_targets input)
    have hrest : P rest := Script.land_preserves hP hroute hland
    rcases hmoved with ⟨_, heq⟩ | ⟨_, _, heq⟩
    · rw [heq]
      exact hrest
    · rw [heq]
      exact hrest

/-- An input changes no answer but the one at the state where the participant stands. -/
theorem feed_answerAt?_of_ne {p : Participant} {s : State} (input : String)
    (h : p.state ≠ s ∨ s = finished) :
    (p.feed script input).answerAt? s = p.answerAt? s := by
  rcases feed_cases script p input with
    ⟨heq, _⟩ | ⟨b, rest, messages, hfin, hb, _, ⟨_, heq⟩ | ⟨_, _, heq⟩⟩
  · rw [heq]
  · rw [heq, answerAt?_moveTo]
  · have hstate : b.state = p.state := Table.key_of_get? hb
    have hne : b.state ≠ s := by
      rw [hstate]
      rcases h with hne | rfl
      · exact hne
      · exact hfin
    have hkey : Answer.state ⟨p.address.user, b.state, input⟩ ≠ s := hne
    rw [heq, answerAt?_record_of_ne _ hkey, answerAt?_moveTo]

/-- The text of an answer is the input when that was taken, and else what it was before. -/
theorem feed_answer_iff (p : Participant) (input : String) {s : State} (hs : s ≠ finished)
    (text : String) :
    ((p.feed script input).answerAt? s).map Answer.text = some text ↔
      (Turn.Answers script s ⟨p, input⟩ ∧ input = text) ∨
      (¬ Turn.Answers script s ⟨p, input⟩ ∧
        (p.answerAt? s).map Answer.text = some text) := by
  by_cases hstate : p.state = s
  · subst hstate
    rcases feed_cases script p input with
      ⟨heq, hnot⟩ | ⟨b, rest, messages, _, hb, _, ⟨hmessage, heq⟩ | ⟨_, hanswers, heq⟩⟩
    · simp [heq, hnot p.state hs]
    · have hnot : ¬ Turn.Answers script p.state ⟨p, input⟩ := by
        intro h
        obtain ⟨_, ⟨c, hc, hwaits⟩, _⟩ := h
        rw [hb] at hc
        cases hc
        rw [hmessage] at hwaits
        cases hwaits
      simp [heq, hnot]
    · have hkey : b.state = p.state := Table.key_of_get? hb
      have hself := answerAt?_record_self (p.moveTo rest) ⟨p.address.user, b.state, input⟩
      rw [heq, ← hkey, hself, hkey]
      simp [hanswers]
  · have hnot : ¬ Turn.Answers script s ⟨p, input⟩ := fun h => hstate h.1
    rw [feed_answerAt?_of_ne input (Or.inl hstate)]
    simp [hnot]

/-- The states that an entry point of an accepted script reaches are left for the end only. -/
theorem reached_closed (hscript : script.Accepted) {root : State} {reached : List State}
    (hreached : script.blocks.reachableFrom root = .ok reached) (s : State) (b : Block)
    (hs : s = finished ∨ s ∈ reached) (hb : script.block? s = some b) :
    ∀ t ∈ b.targets, t = finished ∨ t ∈ reached := by
  intro t ht
  by_cases hfin : t = finished
  · exact Or.inl hfin
  · have hne : s ≠ finished := hscript.block_ne_finished hb
    obtain ⟨hroot, hpath⟩ := ((Blocks.reachableFrom_ok hreached).1 s).1 (hs.resolve_left hne)
    have hedge := Graph.edge_of_mem_targets hb ht hfin
    exact Or.inr (((Blocks.reachableFrom_ok hreached).1 t).2 ⟨hroot, hpath.tail hedge⟩)

/-- A participant after a list of inputs, seen against the one before an entry: it stands among
the reached states, where only the answers since the entry are found, and elsewhere the answers
are the old ones. -/
structure Refreshed (script : Script) (before entered : Participant) (reached : List State)
    (inputs : List String) : Prop where
  stays : (entered.feedAll script inputs).state = finished ∨
    (entered.feedAll script inputs).state ∈ reached
  answered : ∀ s ∈ reached, ((entered.feedAll script inputs).answerAt? s).isSome ↔
    ∃ turn ∈ entered.turns script inputs, turn.Answers script s
  latest : ∀ s ∈ reached, ∀ text,
    ((entered.feedAll script inputs).answerAt? s).map Answer.text = some text ↔
      Latest (fun turn text => turn.Answers script s ∧ turn.input = text)
        (Turn.Answers script s) (entered.turns script inputs) text
  kept : ∀ s, s ∉ reached →
    (entered.feedAll script inputs).answerAt? s = before.answerAt? s

theorem feedAll_preserves {P : State → Prop}
    (hP : ∀ s b, P s → script.block? s = some b → ∀ t ∈ b.targets, P t) {p : Participant}
    (inputs : List String) (hp : P p.state) : P (p.feedAll script inputs).state := by
  induction inputs using List.reverseRecOn with
  | nil => exact hp
  | append_singleton inputs input ih =>
    rw [feedAll_concat]
    exact feed_preserves hP input ih

/-- Answers at states that the participant cannot get to stay as they are. -/
theorem feedAll_answerAt?_of_not {P : State → Prop}
    (hP : ∀ s b, P s → script.block? s = some b → ∀ t ∈ b.targets, P t) {p : Participant}
    (inputs : List String) (hp : P p.state) {s : State} (hs : P s → s = finished) :
    (p.feedAll script inputs).answerAt? s = p.answerAt? s := by
  induction inputs using List.reverseRecOn with
  | nil => rfl
  | append_singleton inputs input ih =>
    rw [feedAll_concat, ← ih]
    have hstands := feedAll_preserves hP inputs hp
    refine feed_answerAt?_of_ne input ?_
    by_cases heq : (p.feedAll script inputs).state = s
    · exact Or.inr (hs (heq ▸ hstands))
    · exact Or.inl heq

/-- A participant without an answer at a state gets the last one that is given there. -/
theorem feedAll_latest_iff (script : Script) (p : Participant) {s : State}
    (hnone : p.answerAt? s = none) (hs : s ≠ finished) (inputs : List String) (text : String) :
    ((p.feedAll script inputs).answerAt? s).map Answer.text = some text ↔
      Latest (fun turn text => turn.Answers script s ∧ turn.input = text)
        (Turn.Answers script s) (p.turns script inputs) text := by
  induction inputs using List.reverseRecOn with
  | nil => simp [feedAll, turns, hnone, Latest.not_nil]
  | append_singleton inputs input ih =>
    rw [feedAll_concat, turns_concat, Latest.concat_iff, ← ih]
    exact feed_answer_iff _ input hs text

/-- After an entry, the answers that the flow can give again are those given since, and the
others are those from before. -/
theorem refreshed_of_enter {entries : List EntryPoint} {blocks : List Block}
    {cycles : CyclePolicy} {p q : Participant} {key : String} {messages : List Message}
    (hbuild : Script.build entries blocks cycles = .ok script)
    (henter : p.enter script key = .ok (messages, q)) :
    ∃ e reached, script.entry? key = some e ∧
      script.blocks.reachableFrom e.state = .ok reached ∧
      ∀ inputs, Refreshed script p q reached inputs := by
  obtain ⟨e, reached, rest, he, hreached, hland, rfl⟩ := enter_ok_iff.1 henter
  refine ⟨e, reached, he, hreached, ?_⟩
  intro inputs
  have hclosed := reached_closed ⟨entries, blocks, cycles, hbuild⟩ hreached
  obtain ⟨hmem, hvertex⟩ := Blocks.reachableFrom_ok hreached
  have hbegin : e.state = finished ∨ e.state ∈ reached := by
    by_cases hfin : e.state = finished
    · exact Or.inl hfin
    · exact Or.inr ((hmem e.state).2 ⟨hfin, Relation.ReflTransGen.refl⟩)
  have hrest : rest = finished ∨ rest ∈ reached := Script.land_preserves hclosed hbegin hland
  have hlatest := fun s (hs : s ∈ reached) text =>
    feedAll_latest_iff script ((p.clear reached).moveTo rest)
      (answerAt?_clear_of_mem p hs) (hvertex s hs).1 inputs text
  refine ⟨feedAll_preserves hclosed inputs hrest, ?_, hlatest, ?_⟩
  · intro s hs
    have hvoids : ∀ turn, Turn.Answers script s turn ↔
        ∃ text, Turn.Answers script s turn ∧ turn.input = text := by simp
    rw [← Latest.exists_iff hvoids]
    simp only [← hlatest s hs]
    cases (((p.clear reached).moveTo rest).feedAll script inputs).answerAt? s <;> simp
  · intro s hs
    rw [feedAll_answerAt?_of_not hclosed inputs hrest fun h => h.resolve_right hs]
    exact answerAt?_clear_of_not_mem p hs

/-- A user who answered a question and a selection starts over; the answer at a state of another
flow is kept. -/
theorem refreshed_of_enter_retry :
    let entries : List EntryPoint := [⟨"start", 1⟩, ⟨"other", 5⟩]
    let blocks : List Block := [⟨1, 2, "Hi", "Hello", .message⟩,
      ⟨2, 3, "Name", "Who are you?", .question⟩,
      ⟨3, 0, "", "", .selection [⟨"again", 1⟩, ⟨"done", 0⟩]⟩,
      ⟨5, 2, "Age", "How old are you?", .question⟩]
    let script := Script.restore entries blocks
    let p : Participant := .restore ⟨⟨1⟩, 7⟩ 3 [⟨7, 2, "Ann"⟩, ⟨7, 3, "again"⟩, ⟨7, 5, "33"⟩]
    let q : Participant := .restore ⟨⟨1⟩, 7⟩ 2 [⟨7, 5, "33"⟩]
    Script.build entries blocks .permissive = .ok script ∧
      p.enter script "start" = .ok ([⟨"Hello", []⟩, ⟨"Who are you?", []⟩], q) ∧
      ∃ e reached, script.entry? "start" = some e ∧
        script.blocks.reachableFrom e.state = .ok reached ∧
        ∀ inputs, Refreshed script p q reached inputs := by
  intro entries blocks script p q
  have hbuild : Script.build entries blocks .permissive = .ok script := by decide +kernel
  have henter : p.enter script "start" = .ok ([⟨"Hello", []⟩, ⟨"Who are you?", []⟩], q) := by
    decide +kernel
  exact ⟨hbuild, henter, refreshed_of_enter hbuild henter⟩

end Participant

end ScriptedChat
