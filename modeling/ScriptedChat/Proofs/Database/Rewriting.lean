import ScriptedChat.Proofs.Database.Integrity

/-!
An update of a participant as others see it. The participant that was found is moved, records
answers and drops answers; what comes out of this is read back exactly, alone and among the
participants of its bot, and the rows of other participants are what they were. A refused update
leaves no trace, not even a row for a user that had none. Every state that is met on the way was
written from 32 bits and is read as it was written.
-/
namespace ScriptedChat

open ScriptedChat.Action Database

/-- A single change of a participant. -/
inductive Edit
  | moveTo (s : State)
  | record (a : Answer)
  | clear (states : List State)

/-- Edits of a user that rows can keep. -/
def Edit.Fits (user : UserId) : Edit → Prop
  | .record a => a.user = user ∧ Plain a.text
  | .moveTo _ | .clear _ => True

namespace Participant

variable {p : Participant}

def edit (p : Participant) : Edit → Participant
  | .moveTo s => p.moveTo s
  | .record a => p.record a
  | .clear states => p.clear states

/-- A participant after several edits. -/
def edited (p : Participant) (edits : List Edit) : Participant := edits.foldl edit p

theorem edit_address (p : Participant) (e : Edit) : (p.edit e).address = p.address := by
  cases e <;> rfl

theorem Storable.edit (hp : p.Storable) {e : Edit} (he : e.Fits p.address.user) :
    (p.edit e).Storable := by
  cases e with
  | moveTo s => exact hp
  | record a => exact record_storable hp he.1 he.2
  | clear states => exact fun a ha => hp a (Table.mem_filter.1 ha).1

theorem edited_address (p : Participant) (edits : List Edit) :
    (p.edited edits).address = p.address := by
  induction edits generalizing p with
  | nil => rfl
  | cons e rest ih => exact (ih (p.edit e)).trans (p.edit_address e)

theorem Storable.edited (hp : p.Storable) {edits : List Edit}
    (h : ∀ e ∈ edits, e.Fits p.address.user) : (p.edited edits).Storable := by
  induction edits generalizing p with
  | nil => exact hp
  | cons e rest ih =>
    refine ih (hp.edit (h e List.mem_cons_self)) fun e' he' => ?_
    rw [p.edit_address e]
    exact h e' (List.mem_cons_of_mem _ he')

end Participant

namespace Database

/-- Tables without a state that cannot be read. -/
structure Readable (db : Database) : Prop where
  states : ∀ row ∈ db.participants.rows,
    ∃ s : State, row.state = s.toNat ∧ stateOfColumn row.state = .ok s
  answered : ∀ row ∈ db.answers.rows,
    ∃ s : State, row.key.state = s.toNat ∧ stateOfColumn row.key.state = .ok s
  found : db.Quiet → ∀ address, db.participants.contains address = true →
    ∃ p, exec (getParticipant address) db = (.ok p, db)
  missing : db.Quiet → ∀ address, db.participants.contains address = false →
    exec (getParticipant address) db = (.error (.participantNotFound address), db)
  listed : db.Quiet → ∀ bot, ∃ participants,
    exec (participantsOfBot bot) db = (.ok participants, db)

theorem Intact.readable {db : Database} (h : db.Intact) : db.Readable where
  states row hrow := by
    obtain ⟨s, hs⟩ := h.states row hrow
    refine ⟨s, hs, ?_⟩
    rw [hs]
    exact stateOfColumn_toNat s
  answered row hrow := by
    obtain ⟨a, _, ha⟩ := h.answers row hrow
    have hstate : row.key.state = a.state.toNat := congrArg (fun r => r.key.state) ha
    refine ⟨a.state, hstate, ?_⟩
    rw [hstate]
    exact stateOfColumn_toNat a.state
  found hquiet address hrow := by
    rw [h.records.contains_participant] at hrow
    obtain ⟨p, hp⟩ := Option.isSome_iff_exists.1 hrow
    refine ⟨p, ?_⟩
    rw [h.records.exec_getParticipant hquiet, hp]
  missing hquiet address hrow := by
    rw [h.records.contains_participant, Option.isSome_eq_false_iff,
      Option.isNone_iff_eq_none] at hrow
    rw [h.records.exec_getParticipant hquiet, hrow]
  listed hquiet bot := ⟨_, h.records.exec_participantsOfBot hquiet bot⟩

/-- A database after a participant was written, and before. -/
structure Rewritten (before after : Database) (p : Participant) : Prop where
  found : exec (getParticipant p.address) after = (.ok p, after)
  others : ∀ address, address ≠ p.address →
    (exec (getParticipant address) after).1 = (exec (getParticipant address) before).1
  listed : ∀ bot, ∃ old new, exec (participantsOfBot bot) before = (.ok old, before) ∧
    exec (participantsOfBot bot) after = (.ok new, after) ∧
    (new.map Participant.address).Nodup ∧
    ∀ q, q ∈ new ↔ q = p ∧ p.address.bot = bot ∨ q ∈ old ∧ q.address ≠ p.address
  participants : ∀ row, row ∈ after.participants.rows ↔
    row = .ofParticipant p ∨ row ∈ before.participants.rows ∧ row.address ≠ p.address
  answers : ∀ row, row ∈ after.answers.rows ↔
    row ∈ p.answerRows ∨ row ∈ before.answers.rows ∧ row.key.address ≠ p.address
  bots : after.bots = before.bots
  messages : after.messages = before.messages ∧ after.nextMessage = before.nextMessage

end Database

/-- A participant that is written over its rows is what is read from then on. -/
theorem Records.rewritten {users : Table Participant.address} {db : Database}
    (h : Records users db) (hquiet : db.Quiet) {p : Participant} (hp : p.Storable)
    (hbot : db.bots.contains p.address.bot = true) :
    db.Rewritten (db.withParticipant p) p := by
  have hafter := h.withParticipant hp hbot
  have hquiet' : (db.withParticipant p).Quiet := hquiet
  exact {
    found := by
      rw [hafter.exec_getParticipant hquiet', Table.get?_insert_self]
    others := by
      intro address hne
      rw [hafter.exec_getParticipant hquiet', h.exec_getParticipant hquiet,
        Table.get?_insert_of_ne _ (Ne.symm hne)]
      cases users.get? address <;> rfl
    listed := by
      intro bot
      refine ⟨_, _, h.exec_participantsOfBot hquiet bot,
        hafter.exec_participantsOfBot hquiet' bot, ?_, ?_⟩
      · exact (users.insert p).keys_nodup.sublist (List.filter_sublist.map _)
      · intro q
        simp only [List.mem_filter, Table.mem_insert, decide_eq_true_eq]
        constructor
        · intro hq
          obtain ⟨rfl | ⟨hq, hne⟩, hof⟩ := hq
          · exact Or.inl ⟨rfl, hof⟩
          · exact Or.inr ⟨⟨hq, hof⟩, hne⟩
        · intro hq
          rcases hq with ⟨rfl, hof⟩ | ⟨⟨hq, hof⟩, hne⟩
          · exact ⟨Or.inl rfl, hof⟩
          · exact ⟨Or.inr ⟨hq, hne⟩, hof⟩
    participants := fun row => Table.mem_insert
    answers := by
      intro row
      rw [Database.withParticipant, Table.mem_foldl_insert p.answerRows_nodup
        (p.answerRows_free db.answers), Table.mem_filter, decide_eq_true_eq, or_comm]
    bots := rfl
    messages := ⟨rfl, rfl⟩ }

namespace Database

/-- An update of a participant of a stored bot writes what the change makes of the participant
that a query finds, a fresh one if there is none, or nothing. -/
theorem updateParticipant_exact {db : Database} (hdb : db.Reachable) {address : Address}
    (hbot : db.bots.contains address.bot = true) {α : Type}
    {change : Participant → Except Error (α × Participant)}
    (hchange : ∀ p outcome q, p.address = address → change p = .ok (outcome, q) →
      ∃ edits : List Edit, (∀ e ∈ edits, e.Fits address.user) ∧ q = p.edited edits) :
    let run := exec (updateParticipant address change) db
    db.Readable ∧ run.2.Readable ∧
      (∀ e, run.1 = .error e → ∃ next, run.2 = { db with nextMessage := next }) ∧
      (db.Quiet → ∃ p,
        (exec (getParticipant address) db = (.ok p, db) ∨
          exec (getParticipant address) db = (.error (.participantNotFound address), db) ∧
            p = .fresh address) ∧
        (∀ outcome q, change p = .ok (outcome, q) →
          run.1 = .ok outcome ∧ q.address = address ∧ db.Rewritten run.2 q) ∧
        (∀ e, change p = .error e → run = (.error e, db))) := by
  intro run
  have hintact := hdb.intact
  refine ⟨hintact.readable, (preserves_updateParticipant address change db hintact).readable,
    fun e => transaction_error, fun hquiet => ?_⟩
  have hrecords := hintact.records
  have hkeeps : ∀ outcome q, change (.among db.users address) = .ok (outcome, q) →
      q.Storable ∧ q.address = address := by
    intro outcome q hq
    have haddress := Participant.among_address db.users address
    obtain ⟨edits, hfits, rfl⟩ := hchange _ outcome q haddress hq
    have huser := congrArg Address.user haddress
    exact ⟨(hrecords.among_storable address).edited (huser ▸ hfits),
      (Participant.edited_address _ edits).trans haddress⟩
  have hexec : run = _ := hrecords.exec_updateParticipant hquiet hbot hkeeps
  refine ⟨.among db.users address, ?_, ?_, ?_⟩
  · rw [hrecords.exec_getParticipant hquiet, Participant.among]
    cases db.users.get? address with
    | none => exact Or.inr ⟨rfl, rfl⟩
    | some p => exact Or.inl rfl
  · intro outcome q hq
    obtain ⟨hstorable, rfl⟩ := hkeeps outcome q hq
    rw [hq] at hexec
    rw [hexec]
    exact ⟨rfl, rfl, hrecords.rewritten hquiet hstorable hbot⟩
  · intro e he
    rw [he] at hexec
    exact hexec

/-- A user who had answered at one block takes this back, answers at another one, and finishes. -/
theorem updateParticipant_exact_again :
    let id : Uuid := ⟨1⟩
    let entries : List EntryPoint := [⟨"start", 2⟩]
    let blocks : List Block := [⟨2, 3, "Name", "Who are you?", .question⟩,
      ⟨3, 0, "City", "Where do you live?", .question⟩]
    let bot : Bot := ⟨id, 5, "Shop", "token", .stopped, .restore entries blocks, [], ⟨0⟩, ⟨0⟩⟩
    let address : Address := ⟨id, 9⟩
    let first : Participant → Except Error (Unit × Participant) :=
      fun p => .ok ((), p.edited [.moveTo 3, .record ⟨9, 2, "Eve"⟩])
    let again : Participant → Except Error (State × Participant) :=
      fun p => .ok (p.state, p.edited [.clear [2], .record ⟨9, 3, "Rome"⟩, .moveTo 0])
    let db := (exec (updateParticipant address first) (exec (createBot bot) {}).2).2
    let run := exec (updateParticipant address again) db
    db.Reachable ∧ db.Quiet ∧ db.bots.contains address.bot = true ∧
      (exec (getParticipant address) db).1 = .ok ⟨address, 3, .ofList [⟨9, 2, "Eve"⟩]⟩ ∧
      run.1 = .ok 3 ∧ run.2.Readable ∧
      db.Rewritten run.2 ⟨address, 0, .ofList [⟨9, 3, "Rome"⟩]⟩ := by
  intro id entries blocks bot address first again db run
  have hdb : db.Reachable := (Reachable.empty.createBot bot).updateParticipant address first
  have hquiet : db.Quiet := by
    show db.failing = []
    decide +kernel
  have hbot : db.bots.contains address.bot = true := by decide +kernel
  have hget : (exec (getParticipant address) db).1 =
      .ok ⟨address, 3, .ofList [⟨9, 2, "Eve"⟩]⟩ := by decide +kernel
  have hchange : ∀ p outcome q, p.address = address → again p = .ok (outcome, q) →
      ∃ edits : List Edit, (∀ e ∈ edits, e.Fits address.user) ∧ q = p.edited edits := by
    intro p outcome q _ hq
    obtain ⟨_, rfl⟩ := Prod.mk.inj (Except.ok.inj hq)
    refine ⟨_, ?_, rfl⟩
    have hplain : Plain "Rome" := by decide +kernel
    simp [Edit.Fits, hplain, address]
  obtain ⟨_, hreadable, _, hexact⟩ := updateParticipant_exact hdb hbot hchange
  obtain ⟨p, hfound, hok, _⟩ := hexact hquiet
  have hp : p = ⟨address, 3, .ofList [⟨9, 2, "Eve"⟩]⟩ := by
    rcases hfound with hfound | ⟨hmissing, _⟩
    · rw [hfound] at hget
      exact Except.ok.inj hget
    · rw [hmissing] at hget
      cases hget
  subst hp
  obtain ⟨hrun, _, hrewritten⟩ := hok _ _ rfl
  exact ⟨hdb, hquiet, hbot, hget, hrun, hreadable, hrewritten⟩

end Database

end ScriptedChat
