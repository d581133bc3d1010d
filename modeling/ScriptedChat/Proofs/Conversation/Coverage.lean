import Mathlib.Data.Fintype.EquivFin
import ScriptedChat.Proofs.Conversation.Ending
import ScriptedChat.Proofs.Conversation.Landing

/-!
Which blocks users come to in a script without cycles. Of the choices of a block with one text
an input takes the first, so the others lead nowhere. A block is shown to some user exactly if
an entry point leads to it over edges that inputs can take: going on, and the first choice of
each text. Where no block offers a text twice these are all edges, and every block is shown.
-/
namespace ScriptedChat

namespace Block

variable {b : Block} {t : State}

/-- Whether an input can take a block to a state: by going on, or by a choice that is the first
one with its text. -/
def Offers (b : Block) (t : State) : Prop :=
  b.next = t ∨ ∃ earlier c later, b.choices = earlier ++ c :: later ∧
    (∀ d ∈ earlier, d.text ≠ c.text) ∧ c.next = t

/-- Every input takes a block where the block offers to go. -/
theorem offers_route (b : Block) (input : String) : b.Offers (b.route input) := by
  unfold route
  cases hfind : b.choices.find? (·.text == input) with
  | none => exact Or.inl rfl
  | some c =>
    obtain ⟨htext, earlier, later, hsplit, hearlier⟩ := List.find?_eq_some_iff_append.1 hfind
    have htext : c.text = input := by simpa using htext
    refine Or.inr ⟨earlier, c, later, hsplit, ?_, rfl⟩
    intro d hd
    rw [htext]
    simpa using hearlier d hd

theorem Complete.choice_filled (h : b.Complete) {c : Choice} (hc : c ∈ b.choices) :
    c.text ≠ "" := by
  obtain ⟨state, next, title, text, kind⟩ := b
  cases kind with
  | message => cases hc
  | question => cases hc
  | selection choices => exact h.2.2 c hc

/-- Wherever a block offers to go, an input that says something goes there. -/
theorem exists_input (hcomplete : b.Complete) (h : b.Offers t) :
    ∃ input, input ≠ "" ∧ b.route input = t := by
  rcases h with rfl | ⟨earlier, c, later, hsplit, hearlier, rfl⟩
  · obtain ⟨input, hother⟩ :=
      Infinite.exists_notMem_finset (insert "" (b.choices.map Choice.text).toFinset)
    rw [Finset.mem_insert, List.mem_toFinset, not_or] at hother
    refine ⟨input, hother.1, ?_⟩
    have hnone : b.choices.find? (·.text == input) = none := by
      apply List.find?_eq_none.2
      intro c hc heq
      exact hother.2 (List.mem_map.2 ⟨c, hc, by simpa using heq⟩)
    rw [route, hnone]
  · refine ⟨c.text, ?_, ?_⟩
    · have hc : c ∈ b.choices := by simp [hsplit]
      exact hcomplete.choice_filled hc
    · have hfind : b.choices.find? (·.text == c.text) = some c := by
        apply List.find?_eq_some_iff_append.2
        refine ⟨by simp, earlier, later, hsplit, ?_⟩
        intro d hd
        simpa using hearlier d hd
      rw [route, hfind]

/-- A message only goes on. -/
theorem next_of_offers (hmessage : b.isMessage = true) (h : b.Offers t) : b.next = t := by
  obtain ⟨state, next, title, text, kind⟩ := b
  cases kind with
  | message =>
    rcases h with hnext | ⟨_, _, _, hsplit, _⟩
    · exact hnext
    · simp [choices] at hsplit
  | question => cases hmessage
  | selection choices => cases hmessage

/-- A block that offers no text twice offers to go wherever it leads. -/
theorem offers_of_nodup (hdistinct : (b.choices.map Choice.text).Nodup) (h : b.LeadsTo t) :
    b.Offers t := by
  rcases h with hnext | ⟨c, hc, hnext⟩
  · exact Or.inl hnext
  · obtain ⟨earlier, later, hsplit⟩ := List.append_of_mem hc
    refine Or.inr ⟨earlier, c, later, hsplit, ?_, hnext⟩
    intro d hd heq
    rw [hsplit, List.map_append, List.nodup_append] at hdistinct
    exact hdistinct.2.2 d.text (List.mem_map_of_mem hd) c.text
      (List.mem_map_of_mem List.mem_cons_self) heq

end Block

namespace Script

open Relation ScriptedChat.Graph

variable {script : Script} {address : Address} {key : String} {inputs : List String}
  {s t : State} {messages : List Message} {p : Participant} {b : Block}

/-- Whether an input can lead from a state to another. -/
def Opens (script : Script) (s t : State) : Prop := ∃ b, script.block? s = some b ∧ b.Offers t

/-- Whether inputs can lead from an entry point to a state. -/
def Open (script : Script) (s : State) : Prop :=
  ∃ key e, script.entry? key = some e ∧ ReflTransGen script.Opens e.state s

/-- A fresh participant enters at a key and then gives inputs that say something, each of them
processed in turn and none of these steps failing. The last step sends the participant to a
state; the messages are those of this step, and the participant is the one after it. -/
inductive Sends (script : Script) (address : Address) (key : String) :
    List String → State → List Message → Participant → Prop
  | entry (e : EntryPoint) (messages : List Message) (p : Participant)
      (he : script.entry? key = some e)
      (henter : (Participant.fresh address).enter script key = .ok (messages, p)) :
      Sends script address key [] e.state messages p
  | input (inputs : List String) (s : State) (messages : List Message) (p : Participant)
      (b : Block) (input : String) (outcome : Transition) (q : Participant)
      (hsends : Sends script address key inputs s messages p) (hfin : p.state ≠ finished)
      (hb : script.block? p.state = some b) (hinput : input ≠ "")
      (hprocess : p.process script input = .ok (outcome, q)) :
      Sends script address key (inputs ++ [input]) (b.route input) outcome.messages q

/-- Whether a fresh participant can be moved onto a block, so that its message is sent. -/
def Shows (script : Script) (address : Address) (b : Block) : Prop :=
  ∃ key inputs s messages p, script.Sends address key inputs s messages p ∧
    script.Passes s b.state ∧ b.message ∈ messages

/-- A step that sends a participant to a state lands there. -/
theorem Sends.land (h : script.Sends address key inputs s messages p) :
    script.land s = .ok (p.state, messages) := by
  cases h with
  | entry e _ _ he henter =>
    obtain ⟨e', _, rest, he', _, hland, rfl⟩ := Participant.enter_ok_iff.1 henter
    rw [he] at he'
    cases he'
    exact hland
  | input inputs s messages p b input outcome q hsends hfin hb hinput hprocess =>
    rcases Participant.process_ok_iff.1 hprocess with
      ⟨hfin', _⟩ | ⟨_, c, rest, messages', hc, _, hland, rfl, rfl⟩
    · exact absurd hfin' hfin
    · rw [hb] at hc
      cases hc
      exact hland

theorem opens_of_advances (h : script.Advances s t) : script.Opens s t := by
  obtain ⟨b, hb, _, hnext⟩ := h
  exact ⟨b, hb, Or.inl hnext⟩

theorem Open.passes (h : script.Open s) (hpasses : script.Passes s t) : script.Open t := by
  obtain ⟨key, e, he, hopens⟩ := h
  exact ⟨key, e, he, hopens.trans (ReflTransGen.mono (fun _ _ => opens_of_advances) _ _ hpasses)⟩

/-- Steps send a participant to open states only. -/
theorem Sends.open (h : script.Sends address key inputs s messages p) : script.Open s := by
  induction h with
  | entry e messages p he henter => exact ⟨key, e, he, ReflTransGen.refl⟩
  | input inputs s messages p b input outcome q hsends hfin hb hinput hprocess ih =>
    obtain ⟨key', e, he, hopens⟩ := ih.passes (land_passes hsends.land)
    exact ⟨key', e, he, hopens.tail ⟨b, hb, b.offers_route input⟩⟩

theorem Shows.open (h : script.Shows address b) : script.Open b.state := by
  obtain ⟨key, inputs, s, messages, p, hsends, hpasses, _⟩ := h
  exact hsends.open.passes hpasses

/-- From a state that a participant moves over, the participant can be moved on wherever an input
leads: over a message at once, and else by the next input. -/
theorem WellFormed.sends_opens (h : WellFormed script.entries.rows script.blocks.rows .reject)
    (hsends : script.Sends address key inputs s messages p) (hpasses : script.Passes s t)
    {u : State} (hopens : script.Opens t u) :
    ∃ inputs' s' messages' p', script.Sends address key inputs' s' messages' p' ∧
      script.Passes s' u := by
  obtain ⟨b, hb, hoffers⟩ := hopens
  cases hmessage : b.isMessage with
  | true =>
    have hnext := Block.next_of_offers hmessage hoffers
    exact ⟨inputs, s, messages, p, hsends, hpasses.tail ⟨b, hb, hmessage, hnext⟩⟩
  | false =>
    have hrest : p.state = t := land_rests hsends.land hpasses hb hmessage
    obtain ⟨input, hinput, hroute⟩ := Block.exists_input (h.complete b (Table.mem_of_get? hb))
      hoffers
    have hstate : script.HasState p.state := by
      rw [hrest]
      exact hasState_of_block hb
    obtain ⟨outcome, q, hprocess, _⟩ := Participant.process_ok h hstate hinput
    have hfin : p.state ≠ finished := by
      rw [hrest]
      exact h.block_ne_finished hb
    rw [← hrest] at hb
    refine ⟨_, _, _, _, .input inputs s messages p b input outcome q hsends hfin hb hinput
      hprocess, ?_⟩
    rw [hroute]

/-- A participant can be moved over every open state. -/
theorem WellFormed.sends_of_open (h : WellFormed script.entries.rows script.blocks.rows .reject)
    (address : Address) (hopen : script.Open s) :
    ∃ key inputs s' messages p, script.Sends address key inputs s' messages p ∧
      script.Passes s' s := by
  obtain ⟨key, e, he, hopens⟩ := hopen
  refine ⟨key, ?_⟩
  induction hopens with
  | refl =>
    obtain ⟨messages, p, henter⟩ := Participant.enter_ok h (.fresh address) he
    exact ⟨[], e.state, messages, p, .entry e messages p he henter, ReflTransGen.refl⟩
  | tail _ hstep ih =>
    obtain ⟨inputs, s, messages, p, hsends, hpasses⟩ := ih
    exact h.sends_opens hsends hpasses hstep

theorem WellFormed.shows_of_open (h : WellFormed script.entries.rows script.blocks.rows .reject)
    (address : Address) (hb : b ∈ script.blocks.rows) (hopen : script.Open b.state) :
    script.Shows address b := by
  obtain ⟨key, inputs, s, messages, p, hsends, hpasses⟩ := h.sends_of_open address hopen
  exact ⟨key, inputs, s, messages, p, hsends, hpasses,
    (landFrom_passes hsends.land hpasses).2 b (Table.get?_key_of_mem hb)⟩

/-- Where no block offers a text twice, every block is open. -/
theorem WellFormed.open_of_nodup {cycles : CyclePolicy}
    (h : WellFormed script.entries.rows script.blocks.rows cycles)
    (hdistinct : ∀ b ∈ script.blocks.rows, (b.choices.map Choice.text).Nodup)
    (hb : b ∈ script.blocks.rows) : script.Open b.state := by
  obtain ⟨e, he, hreach⟩ := h.used b hb
  refine ⟨e.key, e, Table.get?_key_of_mem he, ReflTransGen.mono ?_ _ _ hreach⟩
  intro s t hedge
  obtain ⟨_, c, hc, rfl, hleads⟩ := hedge
  exact ⟨c, Table.get?_key_of_mem hc, Block.offers_of_nodup (hdistinct c hc) hleads⟩

/-- In a script that is accepted without cycles, the blocks that can be shown are those that
inputs can lead to; these are all blocks if no block offers a text twice. -/
theorem shows_iff_open {entries : List EntryPoint} {blocks : List Block}
    (hbuild : build entries blocks .reject = .ok script) (address : Address) :
    (∀ b ∈ script.blocks.rows, script.Shows address b ↔ script.Open b.state) ∧
    ((∀ b ∈ script.blocks.rows, (b.choices.map Choice.text).Nodup) →
      ∀ b ∈ script.blocks.rows, script.Shows address b) := by
  have h := wellFormed_rows_of_build hbuild
  constructor
  · intro b hb
    exact ⟨Shows.open, h.shows_of_open address hb⟩
  · intro hdistinct b hb
    exact h.shows_of_open address hb (h.open_of_nodup hdistinct hb)

/-- A choice, a message that it goes over, and a question that both ways come to: every block is
shown. -/
theorem shows_iff_open_fork :
    let entries : List EntryPoint := [⟨"start", 1⟩]
    let blocks : List Block := [⟨1, 3, "Way", "Left or right?", .selection [⟨"left", 2⟩]⟩,
      ⟨2, 3, "Left", "You went left", .message⟩, ⟨3, 0, "Name", "Who are you?", .question⟩]
    let script := restore entries blocks
    build entries blocks .reject = .ok script ∧
      (∀ b ∈ script.blocks.rows, (b.choices.map Choice.text).Nodup) ∧
      ∀ b ∈ script.blocks.rows, script.Shows ⟨⟨1⟩, 7⟩ b := by
  intro entries blocks script
  have hbuild : build entries blocks .reject = .ok script := by decide +kernel
  have hdistinct : ∀ b ∈ script.blocks.rows, (b.choices.map Choice.text).Nodup := by
    decide +kernel
  exact ⟨hbuild, hdistinct, (shows_iff_open hbuild ⟨⟨1⟩, 7⟩).2 hdistinct⟩

/-- A selection that offers one text twice: the script is accepted, and the block that only the
second choice leads to is never shown. -/
theorem second_choice_dead :
    let entries : List EntryPoint := [⟨"start", 1⟩]
    let shadowed : Block := ⟨3, 0, "Three", "Three?", .question⟩
    let blocks : List Block := [⟨1, 0, "Pick", "Pick one", .selection [⟨"a", 2⟩, ⟨"a", 3⟩]⟩,
      ⟨2, 0, "Two", "Two?", .question⟩, shadowed]
    let script := restore entries blocks
    build entries blocks .reject = .ok script ∧ shadowed ∈ script.blocks.rows ∧
      ∀ address, ¬ script.Shows address shadowed := by
  intro entries shadowed blocks script
  refine ⟨by decide +kernel, by decide +kernel, ?_⟩
  intro address hshows
  obtain ⟨key, e, he, hopens⟩ := hshows.open
  have hentry : e = ⟨"start", 1⟩ := by
    have hmem : e ∈ [(⟨"start", 1⟩ : EntryPoint)] := Table.mem_of_get? he
    simpa using hmem
  -- What inputs can lead to from block 1 is block 2 and the end.
  have hclosed : ∀ t, ReflTransGen script.Opens e.state t → t = 1 ∨ t = 2 ∨ t = finished := by
    intro t hopens
    induction hopens with
    | refl => exact Or.inl (congrArg EntryPoint.state hentry)
    | tail _ hstep ih =>
      obtain ⟨b, hb, hoffers⟩ := hstep
      obtain ⟨hmem, rfl⟩ := Table.get?_eq_some_iff.1 hb
      have hmem : b ∈ blocks := hmem
      rcases hoffers with rfl | ⟨earlier, c, later, hsplit, hearlier, rfl⟩
      · have hends : ∀ b ∈ blocks, b.next = finished := by decide
        exact Or.inr (Or.inr (hends b hmem))
      · simp only [blocks, shadowed, List.mem_cons, List.not_mem_nil, or_false] at hmem
        rcases hmem with rfl | rfl | rfl
        · cases earlier with
          | nil =>
            cases hsplit
            exact Or.inr (Or.inl rfl)
          | cons d rest =>
            have hfirst : d = ⟨"a", 2⟩ := (List.cons.inj hsplit).1.symm
            have hsecond : c ∈ [(⟨"a", 3⟩ : Choice)] := by
              rw [(List.cons.inj hsplit).2]
              simp
            refine absurd ?_ (hearlier d List.mem_cons_self)
            rw [hfirst, List.mem_singleton.1 hsecond]
        · cases earlier <;> cases hsplit
        · cases earlier <;> cases hsplit
  rcases hclosed shadowed.state hopens with h | h | h <;> cases h

end Script

end ScriptedChat
