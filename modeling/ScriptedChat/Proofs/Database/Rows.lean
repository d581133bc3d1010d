import ScriptedChat.Database.Participants
import ScriptedChat.Proofs.Bots
import ScriptedChat.Proofs.Script.RoundTrip

/-!
What rows keep. A bot whose texts have no U+0000 and whose times are whole microseconds can be
written as a row, and it is read back as it was: its document comes back from JSON, its status
from its name, and its script is put together again from its own rows. In the same way a
participant is read back from a state that fits its column and from its answers in any order.
-/
namespace ScriptedChat

/-- Texts that a column takes. -/
def Plain (s : String) : Prop := hasNul s = false

instance : DecidablePred Plain := fun s => inferInstanceAs (Decidable (hasNul s = false))

/-- Instants that a column keeps as they are. -/
def Time.Whole (t : Time) : Prop := t.nanos % 1000 = 0

instance : DecidablePred Time.Whole := fun t => inferInstanceAs (Decidable (t.nanos % 1000 = 0))

theorem Time.Whole.toMicros_eq {t : Time} (h : t.Whole) : t.toMicros = t := by
  obtain ⟨nanos⟩ := t
  have hdvd : (1000 : Int) ∣ nanos - databaseEpoch.nanos := by
    simp only [Whole, databaseEpoch] at h ⊢
    omega
  have hback : Int.tdiv (nanos - databaseEpoch.nanos) 1000 * 1000 =
      nanos - databaseEpoch.nanos := Int.tdiv_mul_cancel hdvd
  simp only [toMicros, hback, Int.sub_add_cancel]

/-- Documents with plain texts, keys of members aside. -/
structure ScriptDocument.AllPlain (d : ScriptDocument) : Prop where
  entries : ∀ e ∈ d.entries, Plain e.key
  blocks : ∀ b ∈ d.blocks, Plain b.title ∧ Plain b.text ∧ ∀ c ∈ b.choices, Plain c.text
  mailings : ∀ m ∈ d.mailings, Plain m.name ∧ Plain m.entryKey

namespace Json

variable {p : String → Bool}

theorem anyItemText_eq_false {l : List Json} (h : ∀ j ∈ l, j.anyText p = false) :
    anyItemText p l = false := by
  induction l with
  | nil => rfl
  | cons j rest ih =>
    rw [anyItemText, h j List.mem_cons_self, Bool.false_or]
    exact ih fun j' hj => h j' (List.mem_cons_of_mem _ hj)

theorem anyMemberText_eq_false {l : List (String × Json)}
    (h : ∀ m ∈ l, p m.1 = false ∧ m.2.anyText p = false) : anyMemberText p l = false := by
  induction l with
  | nil => rfl
  | cons m rest ih =>
    obtain ⟨hkey, hvalue⟩ := h m List.mem_cons_self
    rw [anyMemberText, hkey, hvalue, Bool.false_or, Bool.false_or]
    exact ih fun m' hm => h m' (List.mem_cons_of_mem _ hm)

theorem anyText_list {α : Type} {f : α → Json} {l : List α}
    (h : ∀ a ∈ l, (f a).anyText p = false) : (list f l).anyText p = false := by
  rw [list, anyText]
  refine anyItemText_eq_false fun j hj => ?_
  obtain ⟨a, ha, rfl⟩ := List.mem_map.1 hj
  exact h a ha

theorem anyText_string {s : String} (h : p s = false) : (string s).anyText p = false := by
  rw [anyText, h]

theorem anyText_nat (n : Nat) : (nat n).anyText p = false := rfl

theorem anyText_object {l : List (String × Json)}
    (h : ∀ m ∈ l, p m.1 = false ∧ m.2.anyText p = false) : (object l).anyText p = false := by
  rw [anyText]
  exact anyMemberText_eq_false h

end Json

theorem Choice.toJson_plain {c : Choice} (h : Plain c.text) :
    c.toJson.anyText hasNul = false := by
  have hnames : hasNul "text" = false ∧ hasNul "next" = false := by simp [hasNul]
  refine Json.anyText_object ?_
  simp only [List.forall_mem_cons]
  exact ⟨⟨hnames.1, Json.anyText_string h⟩, ⟨hnames.2, Json.anyText_nat _⟩, List.forall_mem_nil _⟩

theorem EntryPoint.toJson_plain {e : EntryPoint} (h : Plain e.key) :
    e.toJson.anyText hasNul = false := by
  have hnames : hasNul "key" = false ∧ hasNul "state" = false := by simp [hasNul]
  refine Json.anyText_object ?_
  simp only [List.forall_mem_cons]
  exact ⟨⟨hnames.1, Json.anyText_string h⟩, ⟨hnames.2, Json.anyText_nat _⟩, List.forall_mem_nil _⟩

theorem Mailing.toJson_plain {m : Mailing} (hname : Plain m.name) (hkey : Plain m.entryKey) :
    m.toJson.anyText hasNul = false := by
  obtain ⟨hnames₁, hnames₂, hnames₃⟩ : hasNul "name" = false ∧ hasNul "entry_key" = false ∧
      hasNul "required_state" = false := by
    simp [hasNul]
  refine Json.anyText_object ?_
  simp only [List.forall_mem_cons]
  exact ⟨⟨hnames₁, Json.anyText_string hname⟩, ⟨hnames₂, Json.anyText_string hkey⟩,
    ⟨hnames₃, Json.anyText_nat _⟩, List.forall_mem_nil _⟩

theorem Block.ownMembers_plain {b : Block} (htitle : Plain b.title) (htext : Plain b.text) :
    ∀ m ∈ b.ownMembers, hasNul m.1 = false ∧ m.2.anyText hasNul = false := by
  obtain ⟨hnames₁, hnames₂, hnames₃, hnames₄⟩ : hasNul "state" = false ∧
      hasNul "next_state" = false ∧ hasNul "title" = false ∧ hasNul "text" = false := by
    simp [hasNul]
  simp only [ownMembers, List.forall_mem_cons]
  exact ⟨⟨hnames₁, Json.anyText_nat _⟩, ⟨hnames₂, Json.anyText_nat _⟩,
    ⟨hnames₃, Json.anyText_string htitle⟩, ⟨hnames₄, Json.anyText_string htext⟩,
    List.forall_mem_nil _⟩

theorem Block.kindMembers_plain {kind : BlockKind}
    (hoptions : ∀ choices, kind = .selection choices → ∀ c ∈ choices, Plain c.text) :
    ∀ m ∈ kindMembers kind, hasNul m.1 = false ∧ m.2.anyText hasNul = false := by
  have htype : hasNul "type" = false := by simp [hasNul]
  cases kind with
  | message =>
    have hkind : hasNul "message" = false := by simp [hasNul]
    simp only [kindMembers, List.forall_mem_cons]
    exact ⟨⟨htype, Json.anyText_string hkind⟩, List.forall_mem_nil _⟩
  | question =>
    have hkind : hasNul "question" = false := by simp [hasNul]
    simp only [kindMembers, List.forall_mem_cons]
    exact ⟨⟨htype, Json.anyText_string hkind⟩, List.forall_mem_nil _⟩
  | selection choices =>
    have hkind : hasNul "selection" = false ∧ hasNul "options" = false := by simp [hasNul]
    have hchoices : (Json.list Choice.toJson choices).anyText hasNul = false :=
      Json.anyText_list fun c hc => Choice.toJson_plain (hoptions choices rfl c hc)
    simp only [kindMembers, List.forall_mem_cons]
    exact ⟨⟨htype, Json.anyText_string hkind.1⟩, ⟨hkind.2, hchoices⟩, List.forall_mem_nil _⟩

theorem Block.toJson_plain {b : Block} (htitle : Plain b.title) (htext : Plain b.text)
    (hchoices : ∀ c ∈ b.choices, Plain c.text) : b.toJson.anyText hasNul = false := by
  refine Json.anyText_object (List.forall_mem_append.2 ⟨ownMembers_plain htitle htext, ?_⟩)
  refine kindMembers_plain fun options hkind c hc => hchoices c ?_
  rw [choices, hkind]
  exact hc

theorem ScriptDocument.AllPlain.toJson {d : ScriptDocument} (h : d.AllPlain) :
    d.toJson.anyText hasNul = false := by
  obtain ⟨hnames₁, hnames₂, hnames₃⟩ : hasNul "entry_points" = false ∧ hasNul "blocks" = false ∧
      hasNul "mailings" = false := by
    simp [hasNul]
  have hentries : (Json.list EntryPoint.toJson d.entries).anyText hasNul = false :=
    Json.anyText_list fun e he => EntryPoint.toJson_plain (h.entries e he)
  have hblocks : (Json.list Block.toJson d.blocks).anyText hasNul = false := by
    refine Json.anyText_list fun b hb => ?_
    obtain ⟨htitle, htext, hchoices⟩ := h.blocks b hb
    exact Block.toJson_plain htitle htext hchoices
  have hmailings : (Json.list Mailing.toJson d.mailings).anyText hasNul = false := by
    refine Json.anyText_list fun m hm => ?_
    obtain ⟨hname, hkey⟩ := h.mailings m hm
    exact Mailing.toJson_plain hname hkey
  refine Json.anyText_object ?_
  simp only [members, List.forall_mem_cons]
  exact ⟨⟨hnames₁, hentries⟩, ⟨hnames₂, hblocks⟩, ⟨hnames₃, hmailings⟩, List.forall_mem_nil _⟩

/-- Bots that can be written as rows. -/
structure Bot.Storable (bot : Bot) : Prop where
  name : Plain bot.name
  token : Plain bot.token
  document : bot.document.AllPlain
  created : bot.createdAt.Whole
  updated : bot.updatedAt.Whole

theorem BotStatus.ofName_name (status : BotStatus) : ofName status.name = .ok status := by
  cases status <;> decide +kernel

theorem BotStatus.name_plain (status : BotStatus) : Plain status.name := by
  cases status <;> (unfold Plain; decide +kernel)

namespace BotRow

/-- What was written for a bot is read back but for parts of microseconds, whatever order the
members of its document come in; its owner and the time of its creation are those of the row. -/
theorem toBot_written (bot : Bot) (owner : UserId) (created : Time) {script : Json}
    (h : bot.document.toJson.Rearranged script) :
    toBot { ofBot bot with owner := owner, createdAt := created, script := script } =
      .ok { bot with
        owner := owner, createdAt := created, updatedAt := bot.updatedAt.toMicros } := by
  simp [toBot, ofBot, ScriptDocument.recovers _ _ h, BotStatus.ofName_name, Bot.document,
    Script.restore_rows]

theorem toBot_ofBot {bot : Bot} (h : bot.Storable) : (ofBot bot).toBot = .ok bot := by
  have hread := toBot_written bot bot.owner bot.createdAt.toMicros (.same _)
  rw [h.created.toMicros_eq, h.updated.toMicros_eq] at hread
  simpa [ofBot, h.created.toMicros_eq] using hread

theorem parameters_ofBot {bot : Bot} (h : bot.Storable) :
    (ofBot bot).parameters.findSome? Parameter.fault? = none := by
  have hstatus := bot.status.name_plain
  have hname := h.name
  have htoken := h.token
  have hdocument := h.document.toJson
  simp_all [parameters, ofBot, Parameter.fault?, Plain]

end BotRow

/-- Participants that can be written as rows. -/
def Participant.Storable (p : Participant) : Prop :=
  ∀ a ∈ p.answers.rows, a.user = p.address.user ∧ Plain a.text

theorem Participant.record_storable {p : Participant} {a : Answer} (hp : p.Storable)
    (huser : a.user = p.address.user) (htext : Plain a.text) : (p.record a).Storable := by
  intro b hb
  rcases Table.mem_insert.1 hb with rfl | ⟨hb, _⟩
  · exact ⟨huser, htext⟩
  · exact hp b hb

def ParticipantRow.ofParticipant (p : Participant) : ParticipantRow := ⟨p.address, p.state.toNat⟩

def AnswerRow.ofAnswer (address : Address) (a : Answer) : AnswerRow :=
  ⟨⟨address, a.state.toNat⟩, a.text⟩

theorem AnswerRow.key_injective {address : Address} {a b : Answer}
    (h : (ofAnswer address a).key = (ofAnswer address b).key) : a.state = b.state := by
  simp only [ofAnswer, AnswerKey.mk.injEq, true_and, Int.natCast_inj] at h
  exact UInt32.toNat_inj.1 h

/-- The rows of the answers of a participant. -/
def Participant.answerRows (p : Participant) : List AnswerRow :=
  p.answers.rows.map (AnswerRow.ofAnswer p.address)

/-- No two of them have the same key. -/
theorem Participant.answerRows_nodup (p : Participant) :
    (p.answerRows.map AnswerRow.key).Nodup := by
  rw [answerRows, List.map_map]
  refine List.pairwise_map.2 (p.answers.ascending.imp ?_)
  intro a b hlt hkey
  exact Table.ne_of_compare_lt hlt (AnswerRow.key_injective hkey)

/-- None of them has the key of an answer of another participant. -/
theorem Participant.answerRows_free (p : Participant) (answers : Table AnswerRow.key) :
    ∀ r ∈ p.answerRows, ∀ x ∈ (answers.filter fun r => r.key.address ≠ p.address).rows,
      x.key ≠ r.key := by
  intro r hr x hx hkey
  obtain ⟨a, _, rfl⟩ := List.mem_map.1 hr
  have hne := (Table.mem_filter.1 hx).2
  rw [hkey] at hne
  simp [AnswerRow.ofAnswer] at hne

/-- What a row says about a user, if its state fits. -/
def AnswerRow.answer (row : AnswerRow) : Answer :=
  ⟨row.key.address.user, UInt32.ofNat row.key.state.toNat, row.text⟩

namespace Database

theorem stateOfColumn_toNat (s : State) : stateOfColumn s.toNat = .ok s := by
  have hlow : (0 : Int) ≤ s.toNat := Int.natCast_nonneg _
  have hhigh : (s.toNat : Int) < UInt32.size := by
    have := s.toNat_lt
    simp only [UInt32.size]
    omega
  rw [stateOfColumn, if_pos ⟨hlow, hhigh⟩]
  simp

theorem answer_ofAnswer (address : Address) (a : Answer) :
    (AnswerRow.ofAnswer address a).answer = ⟨address.user, a.state, a.text⟩ := by
  simp [AnswerRow.ofAnswer, AnswerRow.answer]

theorem answerOfRow_ofAnswer (address : Address) (a : Answer) :
    answerOfRow (.ofAnswer address a) = .ok (AnswerRow.ofAnswer address a).answer := by
  rw [answer_ofAnswer, answerOfRow, AnswerRow.ofAnswer, stateOfColumn_toNat]
  rfl

theorem mapM_answerOfRow {rows : List AnswerRow}
    (h : ∀ row ∈ rows, ∃ address a, row = .ofAnswer address a) :
    rows.mapM (fun row => answerOfRow row) = .ok (rows.map AnswerRow.answer) := by
  refine Outcome.mapM_ok fun row hrow => ?_
  obtain ⟨address, a, rfl⟩ := h row hrow
  exact answerOfRow_ofAnswer address a

/-- A participant is put together again from its state and its answers, in any order. -/
theorem restore_eq {p : Participant} (hp : p.Storable) {answers : List Answer}
    (h : ∀ b, b ∈ answers ↔ ∃ a ∈ p.answers.rows, b = ⟨p.address.user, a.state, a.text⟩) :
    Participant.restore p.address p.state answers = p := by
  have hanswers : Table.ofList answers = p.answers := by
    refine Table.ofList_eq_of_mem fun b => ?_
    rw [h b]
    constructor
    · intro hb
      obtain ⟨a, ha, rfl⟩ := hb
      rw [← (hp a ha).1]
      exact ha
    · intro hb
      refine ⟨b, hb, ?_⟩
      rw [← (hp b hb).1]
  rw [Participant.restore, hanswers]

theorem readParticipant_eq {p : Participant} (hp : p.Storable) {rows : List AnswerRow}
    (h : ∀ row, row ∈ rows ↔ ∃ a ∈ p.answers.rows, row = .ofAnswer p.address a) :
    readParticipant p.address (some (.ofParticipant p)) rows = .ok p := by
  have hrows : ∀ row ∈ rows, ∃ address a, row = AnswerRow.ofAnswer address a := by
    intro row hrow
    obtain ⟨a, _, heq⟩ := (h row).1 hrow
    exact ⟨p.address, a, heq⟩
  have hread := mapM_answerOfRow hrows
  have hrestore : Participant.restore p.address p.state (rows.map AnswerRow.answer) = p := by
    refine restore_eq hp fun b => ?_
    simp only [List.mem_map, h]
    constructor
    · intro hb
      obtain ⟨row, ⟨a, ha, rfl⟩, rfl⟩ := hb
      exact ⟨a, ha, answer_ofAnswer _ _⟩
    · intro hb
      obtain ⟨a, ha, rfl⟩ := hb
      exact ⟨_, ⟨a, ha, rfl⟩, answer_ofAnswer _ _⟩
  simp only [readParticipant, ParticipantRow.ofParticipant, hread, stateOfColumn_toNat,
    Outcome.ok_bind, hrestore, Outcome.pure_eq]

end Database

end ScriptedChat
