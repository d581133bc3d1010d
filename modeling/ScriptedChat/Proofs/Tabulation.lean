import Mathlib.Data.List.Perm.Basic
import Mathlib.Data.List.Sort
import ScriptedChat.AnswersTable
import ScriptedChat.Proofs.Script.Reordering

/-!
The answers table by what it shows. A table tabulates blocks and participants when its columns
are the blocks that wait for an answer, by ascending state, its rows the participants by ascending
user, and every cell what the participant of its row says at the state of its column. There is
one such table for participants with users of their own, and it is the one that is built; so it
does not depend on the order of the participants or of the lists that made the script, nor on
answers that no column asks for.
-/
namespace ScriptedChat

/-- What a participant answered at a state; nothing is said by the empty text. -/
def Participant.Says (p : Participant) (s : State) (text : String) : Prop :=
  (∃ a, p.answerAt? s = some a ∧ a.text = text) ∨ p.answerAt? s = none ∧ text = ""

theorem Participant.says_cell_iff {p : Participant} {b : Block} {text : String} :
    p.Says b.state text ↔ text = AnswersTable.cell p b := by
  unfold Says AnswersTable.cell
  cases p.answerAt? b.state with
  | none => simp
  | some a => simp [eq_comm]

theorem Answer.text_ne_empty {a : Answer} (h : Answer.make a.user a.state a.text = .ok a) :
    a.text ≠ "" := by
  intro hempty
  rw [make, if_pos hempty] at h
  cases h

/-- Among answers that say something the empty text stands for no answer. -/
theorem Participant.Says.empty_iff {p : Participant}
    (hmade : ∀ a ∈ p.answers.rows, Answer.make a.user a.state a.text = .ok a) {s : State}
    {text : String} (h : p.Says s text) : text = "" ↔ p.answerAt? s = none := by
  rcases h with ⟨a, ha, rfl⟩ | ⟨hnone, rfl⟩
  · refine iff_of_false (Answer.text_ne_empty (hmade a (Table.mem_of_get? ha))) ?_
    rw [ha]
    exact nofun
  · exact iff_of_true rfl hnone

/-- A list that is related item by item to the values of a function is the list of them. -/
theorem forall₂_iff_eq_map {α β : Type} {R : α → β → Prop} {f : α → β}
    (h : ∀ a b, R a b ↔ b = f a) {l : List α} {m : List β} :
    List.Forall₂ R l m ↔ m = l.map f := by
  have hR : R = fun a b => f a = b := by
    funext a b
    exact propext ((h a b).trans eq_comm)
  rw [hR, ← List.forall₂_map_left_iff, List.forall₂_eq_eq_eq, eq_comm]

theorem map_eq_of_forall₂ {α β : Type} {f : α → β} {l m : List α}
    (h : List.Forall₂ (fun a b => f b = f a) l m) : m.map f = l.map f := by
  rw [← List.forall₂_eq_eq_eq, List.forall₂_map_left_iff, List.forall₂_map_right_iff]
  exact h.flip

theorem Script.questions_ascending (script : Script) :
    script.questions.Pairwise fun a b => a.state < b.state :=
  (script.blocks.ascending.imp Std.compare_eq_lt.1).filter _

theorem Script.mem_questions_of_build {entries : List EntryPoint} {blocks : List Block}
    {cycles : CyclePolicy} {script : Script} (h : build entries blocks cycles = .ok script)
    {b : Block} : b ∈ script.questions ↔ b ∈ blocks ∧ b.kind ≠ .message := by
  obtain ⟨hwf, rfl⟩ := build_ok_iff_wellFormed.1 h
  have hkind : (!b.isMessage) = true ↔ b.kind ≠ .message := by
    unfold Block.isMessage
    cases b.kind <;> simp
  rw [questions, List.mem_filter, hkind, restore, Table.mem_ofList hwf.states_nodup]

namespace AnswersTable

/-- The participants by ascending user. -/
def ranked (participants : List Participant) : List Participant :=
  participants.mergeSort fun a b => a.address.user ≤ b.address.user

theorem ranked_perm (participants : List Participant) :
    (ranked participants).Perm participants := List.mergeSort_perm _ _

theorem ranked_ascending {participants : List Participant}
    (h : (participants.map fun p => p.address.user).Nodup) :
    (ranked participants).Pairwise fun p q => p.address.user < q.address.user := by
  have hle : (ranked participants).Pairwise fun p q => p.address.user ≤ q.address.user := by
    refine (List.pairwise_mergeSort ?_ ?_ participants).imp fun h => by simpa using h
    · intro a b c hab hbc
      simp only [decide_eq_true_eq] at hab hbc ⊢
      exact Int64.le_trans hab hbc
    · intro a b
      simpa using Int64.le_total a.address.user b.address.user
  have hne : (ranked participants).Pairwise fun p q => p.address.user ≠ q.address.user := by
    refine List.pairwise_map.1 ?_
    exact ((ranked_perm participants).map _).nodup_iff.2 h
  exact (hle.and hne).imp fun h => Int64.lt_of_le_of_ne h.1 h.2

/-- A table with a column for each block that waits for an answer and a row for each participant,
in ascending order, whose cells say what the participants answered. -/
structure Displays (blocks columns : List Block) (participants order : List Participant)
    (table : AnswersTable) : Prop where
  columns_mem : ∀ b, b ∈ columns ↔ b ∈ blocks ∧ b.kind ≠ .message
  columns_ascending : columns.Pairwise fun a b => a.state < b.state
  order_perm : order.Perm participants
  order_ascending : order.Pairwise fun p q => p.address.user.toInt < q.address.user.toInt
  head : table.head = "UserID" :: columns.map Block.title
  body : List.Forall₂ (fun p row => ∃ cells, row = toString p.address.user.toInt :: cells ∧
    List.Forall₂ (fun b text => p.Says b.state text) columns cells) order table.body

/-- Whether a table tabulates the answers of participants at blocks. -/
def Tabulates (blocks : List Block) (participants : List Participant) (table : AnswersTable) :
    Prop :=
  ∃ columns order, Displays blocks columns participants order table

theorem body_iff {columns : List Block} {order : List Participant} {body : List (List String)} :
    List.Forall₂ (fun p row => ∃ cells, row = toString p.address.user.toInt :: cells ∧
      List.Forall₂ (fun b text => p.Says b.state text) columns cells) order body ↔
        body = order.map (row columns) := by
  refine forall₂_iff_eq_map fun p cells => ?_
  have hcells : ∀ cells, List.Forall₂ (fun b text => p.Says b.state text) columns cells ↔
      cells = columns.map (cell p) :=
    fun _ => forall₂_iff_eq_map fun b _ => Participant.says_cell_iff (b := b)
  simp only [hcells, exists_eq_right]
  rfl

variable {entries : List EntryPoint} {blocks : List Block} {cycles : CyclePolicy} {script : Script}
  {participants : List Participant} {table : AnswersTable}

/-- One table tabulates the blocks of a script and participants with users of their own, and it is
the one that is built. -/
theorem tabulates_iff (hbuild : Script.build entries blocks cycles = .ok script)
    (hnodup : (participants.map fun p => p.address.user).Nodup) :
    Tabulates blocks participants table ↔ table = build script participants := by
  constructor
  · intro h
    obtain ⟨columns, order, hdisplays⟩ := h
    have hstates : Std.Asymm fun a b : Block => a.state < b.state := ⟨fun _ _ => UInt32.lt_asymm⟩
    have hcolumns : columns = script.questions := by
      refine hdisplays.columns_ascending.eq_of_mem_iff script.questions_ascending fun b => ?_
      rw [hdisplays.columns_mem, Script.mem_questions_of_build hbuild]
    have husers : Std.Asymm fun p q : Participant => p.address.user < q.address.user :=
      ⟨fun _ _ => Int64.lt_asymm⟩
    have horder : order = ranked participants := by
      have hascending := hdisplays.order_ascending.imp Int64.lt_iff_toInt_lt.2
      refine hascending.eq_of_mem_iff (ranked_ascending hnodup) fun p => ?_
      rw [hdisplays.order_perm.mem_iff, (ranked_perm participants).mem_iff]
    subst hcolumns horder
    obtain ⟨head, body⟩ := table
    have hhead := hdisplays.head
    have hbody := body_iff.1 hdisplays.body
    dsimp only at hhead hbody
    rw [hhead, hbody]
    rfl
  · intro h
    subst h
    refine ⟨script.questions, ranked participants, ?_⟩
    exact {
      columns_mem := fun _ => Script.mem_questions_of_build hbuild
      columns_ascending := script.questions_ascending
      order_perm := ranked_perm participants
      order_ascending := (ranked_ascending hnodup).imp Int64.lt_iff_toInt_lt.1
      head := rfl
      body := body_iff.2 rfl }

theorem Tabulates.perm {blocks' : List Block} {participants' : List Participant}
    (hblocks : blocks.Perm blocks') (hparticipants : participants.Perm participants')
    (h : Tabulates blocks participants table) : Tabulates blocks' participants' table := by
  obtain ⟨columns, order, hdisplays⟩ := h
  refine ⟨columns, order, { hdisplays with columns_mem := ?_, order_perm := ?_ }⟩
  · simpa only [← hblocks.mem_iff] using hdisplays.columns_mem
  · exact hdisplays.order_perm.trans hparticipants

/-- Whether two participants are the same user with the same answers at the blocks that wait for
one. -/
def SameAnswers (blocks : List Block) (p q : Participant) : Prop :=
  q.address.user = p.address.user ∧
    ∀ b ∈ blocks, b.kind ≠ .message → q.answerAt? b.state = p.answerAt? b.state

/-- What participants answered elsewhere is not in the table. -/
theorem Tabulates.sameAnswers {participants' : List Participant}
    (hsame : List.Forall₂ (SameAnswers blocks) participants participants')
    (h : Tabulates blocks participants table) : Tabulates blocks participants' table := by
  obtain ⟨columns, order, hdisplays⟩ := h
  obtain ⟨order', horder, hperm⟩ := List.perm_comp_forall₂ hdisplays.order_perm hsame
  have husers : order'.map (fun p => p.address.user.toInt) =
      order.map fun p => p.address.user.toInt :=
    map_eq_of_forall₂ (horder.imp fun p q hpq => by rw [hpq.1])
  have hrows : order'.map (row columns) = order.map (row columns) := by
    refine map_eq_of_forall₂ (horder.imp fun p q hpq => ?_)
    have hcells : columns.map (cell q) = columns.map (cell p) := by
      refine List.map_congr_left fun b hb => ?_
      obtain ⟨hmem, hkind⟩ := (hdisplays.columns_mem b).1 hb
      rw [cell, cell, hpq.2 b hmem hkind]
    rw [row, row, hcells, hpq.1]
  refine ⟨columns, order',
    { hdisplays with order_perm := hperm, order_ascending := ?_, body := ?_ }⟩
  · have hascending := List.pairwise_map.2 hdisplays.order_ascending
    rw [← husers] at hascending
    exact List.pairwise_map.1 hascending
  · rw [body_iff, hrows]
    exact body_iff.1 hdisplays.body

/-- The answers table is well shaped and does not depend on any order. The table that is built is
the one that tabulates the blocks and the participants; all its rows are as long as its head, and
there is one for each participant. It is built from the participants and from the lists of the
script in every order, and whatever the participants answered where no block asks for it. Where
all answers were made to say something, an empty cell says that there is none. -/
theorem build_tabulates (hbuild : Script.build entries blocks cycles = .ok script)
    (hnodup : (participants.map fun p => p.address.user).Nodup) :
    (∀ table, Tabulates blocks participants table ↔ table = build script participants) ∧
    ((build script participants).body.length = participants.length ∧
      ∀ row ∈ (build script participants).body,
        row.length = (build script participants).head.length) ∧
    (∀ entries' blocks' participants', entries.Perm entries' → blocks.Perm blocks' →
      participants.Perm participants' → ∃ script',
        Script.build entries' blocks' cycles = .ok script' ∧
          build script' participants' = build script participants) ∧
    (∀ participants', List.Forall₂ (SameAnswers blocks) participants participants' →
      build script participants' = build script participants) ∧
    ∀ p ∈ participants, (∀ a ∈ p.answers.rows, Answer.make a.user a.state a.text = .ok a) →
      ∀ s text, p.Says s text → (text = "" ↔ p.answerAt? s = none) := by
  have hbuilt : Tabulates blocks participants (build script participants) :=
    (tabulates_iff hbuild hnodup).2 rfl
  refine ⟨fun _ => tabulates_iff hbuild hnodup, ⟨?_, ?_⟩, ?_, ?_, ?_⟩
  · rw [build, List.length_map, List.length_mergeSort]
  · intro cells hcells
    obtain ⟨p, _, rfl⟩ := List.mem_map.1 hcells
    simp [build, row]
  · intro entries' blocks' participants' hentries hblocks hparticipants
    have hbuild' := Script.build_ok_of_perm hentries hblocks hbuild
    have hnodup' := (hparticipants.map fun p => p.address.user).nodup_iff.1 hnodup
    exact ⟨script, hbuild', ((tabulates_iff hbuild' hnodup').1
      (hbuilt.perm hblocks hparticipants)).symm⟩
  · intro participants' hsame
    have husers : participants'.map (fun p => p.address.user) =
        participants.map fun p => p.address.user :=
      map_eq_of_forall₂ (hsame.imp fun p q hpq => hpq.1)
    exact ((tabulates_iff hbuild (husers ▸ hnodup)).1 (hbuilt.sameAnswers hsame)).symm
  · intro p _ hmade s text hsays
    exact hsays.empty_iff hmade

/-- Two columns of one title, a user with a negative number, and an answer that a former script
left behind. -/
theorem build_tabulates_namesakes :
    let entries : List EntryPoint := [⟨"start", 1⟩]
    let blocks : List Block := [⟨3, 0, "Name", "Your last name?", .question⟩,
      ⟨2, 3, "Thanks", "One more.", .message⟩, ⟨1, 2, "Name", "Your first name?", .question⟩]
    let script := Script.restore entries blocks
    let ann : Participant := .restore ⟨⟨1⟩, 3⟩ 3 [⟨3, 1, "Ann"⟩, ⟨3, 9, "Blue"⟩]
    let bob : Participant := .restore ⟨⟨1⟩, -2⟩ 0 [⟨-2, 3, "Fox"⟩, ⟨-2, 1, "Bob"⟩]
    let table : AnswersTable :=
      ⟨["UserID", "Name", "Name"], [["-2", "Bob", "Fox"], ["3", "Ann", ""]]⟩
    Tabulates blocks [bob, ann] table ∧ build script [bob, ann] = table ∧
      (∃ script', Script.build entries blocks.reverse .reject = .ok script' ∧
        build script' [ann, bob] = table) ∧
      build script [bob, ann.clear [9]] = table ∧ ("" = "" ↔ ann.answerAt? 3 = none) := by
  intro entries blocks script ann bob table
  have hbuild : Script.build entries blocks .reject = .ok script := by decide +kernel
  have hnodup : ([bob, ann].map fun p => p.address.user).Nodup := by decide +kernel
  obtain ⟨htabulates, _, horder, hsame, hempty⟩ := build_tabulates hbuild hnodup
  have htable : build script [bob, ann] = table := by
    rw [build, List.mergeSort_of_pairwise (by decide +kernel)]
    decide +kernel
  refine ⟨(htabulates table).2 htable.symm, htable, ?_, ?_, ?_⟩
  · rw [← htable]
    exact horder entries blocks.reverse [ann, bob] (.refl _) blocks.reverse_perm.symm
      (List.Perm.swap _ _ _)
  · rw [← htable]
    refine hsame _ (.cons ⟨rfl, fun _ _ _ => rfl⟩ (.cons ⟨rfl, ?_⟩ .nil))
    decide +kernel
  · exact hempty ann (List.mem_cons_of_mem _ List.mem_cons_self) (by decide +kernel) 3 ""
      (.inr ⟨by decide +kernel, rfl⟩)

end AnswersTable

end ScriptedChat
