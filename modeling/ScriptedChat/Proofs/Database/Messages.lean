import ScriptedChat.Database.Messages
import ScriptedChat.Bus.Queue
import ScriptedChat.Proofs.Database.Statements
import ScriptedChat.Proofs.Envelopes

/-!
Statements on the rows of the bus, also on a database that is told to fail some of them. A batch is
appended whole, under ascending numbers behind all numbers that are in use, or not at all. A row
that is marked keeps everything else. What is read are rows without a mark, by ascending number.
-/
namespace ScriptedChat

/-- The row of an envelope that is published under a number. -/
def Delivery.row (d : Delivery) : BusRow :=
  ⟨d.id, d.envelope.topic.name, d.envelope.destination, d.envelope.payload, false⟩

namespace BusRow

/-- The delivery of a row, if the row is an envelope. -/
def delivery? (row : BusRow) : Option Delivery :=
  match Envelope.ofParts row.topic row.payload with
  | .ok e => some ⟨row.id, e⟩
  | .error _ => none

/-- A row with a mark if it has a number. -/
def mark (id : Int) (row : BusRow) : BusRow :=
  if row.id = id then { row with delivered := true } else row

@[simp]
theorem mark_id (id : Int) (row : BusRow) : (row.mark id).id = row.id := by
  unfold mark
  split <;> rfl

@[simp]
theorem mark_delivery? (id : Int) (row : BusRow) : (row.mark id).delivery? = row.delivery? := by
  unfold mark
  split <;> rfl

theorem mark_of_ne {id : Int} {row : BusRow} (h : row.id ≠ id) : row.mark id = row := if_neg h

theorem mark_delivered {id : Int} {row : BusRow} :
    (row.mark id).delivered = true ↔ row.id = id ∨ row.delivered = true := by
  by_cases h : row.id = id
  · simp [mark, h]
  · simp [mark, h]

theorem delivery?_id {row : BusRow} {d : Delivery} (h : row.delivery? = some d) :
    d.id = row.id := by
  unfold delivery? at h
  split at h
  · cases h
    rfl
  · cases h

theorem delivery?_row (d : Delivery) : d.row.delivery? = some d := by
  rw [delivery?, Delivery.row]
  dsimp only
  rw [Envelope.ofParts_payload]

end BusRow

/-- The numbers of a batch ascend, and none of them was in use. -/
theorem Queue.number_ids (first : Int) (batch : List Envelope) :
    (Queue.number first batch).Pairwise (fun d e => d.id < e.id) ∧
      ∀ d ∈ Queue.number first batch, first ≤ d.id := by
  induction batch generalizing first with
  | nil => simp [Queue.number]
  | cons e rest ih =>
    obtain ⟨hascending, hlow⟩ := ih (first + 1)
    rw [Queue.number, List.pairwise_cons]
    refine ⟨⟨?_, hascending⟩, ?_⟩
    · intro d hd
      have hd := hlow d hd
      show first < d.id
      omega
    · intro d hd
      rcases List.mem_cons.1 hd with rfl | hd
      · exact Int.le_refl first
      · have hd := hlow d hd
        omega

namespace Database

open ScriptedChat.Action

variable {db : Database}

/-- The numbers of all rows are below the next one. -/
def Fresh (db : Database) : Prop := ∀ row ∈ db.messages.rows, row.id < db.nextMessage

/-- The rows of the bus come by ascending number. -/
theorem messages_ascending (db : Database) :
    db.messages.rows.Pairwise fun a b => a.id < b.id :=
  db.messages.ascending.imp Std.compare_eq_lt.1

theorem execute_cases (statement : String) (parameters : List Parameter) (db : Database) :
    exec (Sql.execute statement parameters) db = (.ok (), db) ∨
      ∃ fault, exec (Sql.execute statement parameters) db = (.error fault, db) := by
  unfold Sql.execute
  cases parameters.findSome? Parameter.fault? with
  | some fault => exact Or.inr ⟨fault, rfl⟩
  | none =>
    simp only [exec_bind, exec_get]
    split
    · exact Or.inr ⟨.injected, rfl⟩
    · exact Or.inl rfl

section Publish

theorem appendRow_rows (h : db.Fresh) (topic destination : String) (payload : Json)
    (delivered : Bool) :
    (appendRow topic destination payload delivered db).messages.rows =
      db.messages.rows ++ [⟨db.nextMessage, topic, destination, payload, delivered⟩] := by
  refine Table.rows_insert_last ?_
  intro row hrow
  exact Std.compare_eq_lt.2 (h row hrow)

theorem appendRow_fresh (h : db.Fresh) (topic destination : String) (payload : Json)
    (delivered : Bool) : (appendRow topic destination payload delivered db).Fresh := by
  intro row hrow
  rw [appendRow_rows h] at hrow
  have hnext : (appendRow topic destination payload delivered db).nextMessage =
      db.nextMessage + 1 := rfl
  rcases List.mem_append.1 hrow with hrow | hrow
  · have hlt := h row hrow
    omega
  · rw [List.mem_singleton.1 hrow, hnext]
    exact Int.lt_succ db.nextMessage

/-- The database with a row for each envelope of a batch. -/
def posted (batch : List Envelope) (db : Database) : Database :=
  batch.foldl (fun db e => appendRow e.topic.name e.destination e.payload false db) db

theorem posted_fresh (batch : List Envelope) {db : Database} (h : db.Fresh) :
    (db.posted batch).Fresh := by
  induction batch generalizing db with
  | nil => exact h
  | cons e rest ih => exact ih (appendRow_fresh h _ _ _ _)

/-- A row for each envelope, in the order of the batch and under ascending numbers. -/
theorem posted_rows (batch : List Envelope) {db : Database} (h : db.Fresh) :
    (db.posted batch).messages.rows =
      db.messages.rows ++ (Queue.number db.nextMessage batch).map Delivery.row := by
  induction batch generalizing db with
  | nil => simp [posted, Queue.number]
  | cons e rest ih =>
    have hrest := ih (appendRow_fresh h e.topic.name e.destination e.payload false)
    rw [appendRow_rows h, List.append_assoc] at hrest
    exact hrest

theorem posted_next (batch : List Envelope) (db : Database) :
    (db.posted batch).nextMessage = db.nextMessage + batch.length := by
  induction batch generalizing db with
  | nil => simp [posted]
  | cons e rest ih =>
    have hrest := ih (appendRow e.topic.name e.destination e.payload false db)
    have hfirst : (appendRow e.topic.name e.destination e.payload false db).nextMessage =
        db.nextMessage + 1 := rfl
    have hposted : (db.posted (e :: rest)).nextMessage = _ := hrest
    rw [hposted, hfirst, List.length_cons]
    omega

theorem insertMessage_cases (e : Envelope) (db : Database) :
    exec (insertMessage e) db =
        (.ok (), appendRow e.topic.name e.destination e.payload false db) ∨
      ∃ fault, exec (insertMessage e) db = (.error fault, db) := by
  rcases execute_cases "INSERT INTO bus_messages (topic, destination, payload) VALUES ($1, $2, $3)"
    [.text e.topic.name, .text e.destination, .json e.payload] db with h | ⟨fault, h⟩
  · exact Or.inl (by simp only [insertMessage, exec_bind, h, exec_modify])
  · exact Or.inr ⟨fault, by simp only [insertMessage, exec_bind, h]⟩

/-- Rows are inserted one after the other until one fails. -/
theorem insertMessages_cases (batch : List Envelope) (db : Database) :
    exec (batch.forM insertMessage) db = (.ok (), db.posted batch) ∨
      ∃ fault earlier, exec (batch.forM insertMessage) db = (.error fault, db.posted earlier) := by
  induction batch generalizing db with
  | nil => exact Or.inl rfl
  | cons e rest ih =>
    rcases insertMessage_cases e db with hfirst | ⟨fault, hfirst⟩
    · have hexec : exec ((e :: rest).forM insertMessage) db = exec (rest.forM insertMessage)
          (appendRow e.topic.name e.destination e.payload false db) := by
        show exec (insertMessage e >>= fun _ => rest.forM insertMessage) db = _
        rw [exec_bind, hfirst]
      rw [hexec]
      rcases ih (appendRow e.topic.name e.destination e.payload false db) with
        hrest | ⟨fault, earlier, hrest⟩
      · exact Or.inl hrest
      · exact Or.inr ⟨fault, e :: earlier, hrest⟩
    · refine Or.inr ⟨fault, [], ?_⟩
      show exec (insertMessage e >>= fun _ => rest.forM insertMessage) db = _
      rw [exec_bind, hfirst]
      rfl

/-- A transaction has the effect of its body, or none but on the numbers that were given. -/
theorem transaction_cases {ε α : Type} {onFault : DatabaseFault → ε}
    (body : ExceptT ε (StateM Database) α) (db : Database) :
    (∃ a db', exec body db = (.ok a, db') ∧
        exec (Sql.transaction onFault body) db = (.ok a, db')) ∨
      ∃ e next, exec (Sql.transaction onFault body) db =
          (.error e, { db with nextMessage := next }) ∧
        (next = db.nextMessage ∨ next = (exec body db).2.nextMessage) := by
  rcases execute_cases "BEGIN" [] db with hbegin | ⟨fault, hbegin⟩
  · cases hbody : exec body db with
    | mk outcome db' =>
      cases outcome with
      | error e =>
        -- The rows are taken back, but the numbers that they had are not given out again.
        refine Or.inr ⟨e, db'.nextMessage, ?_, Or.inr rfl⟩
        simp [Sql.transaction, exec_bind, exec_tryCatch, exec_adapt, hbegin, hbody]
      | ok a =>
        rcases execute_cases "COMMIT" [] db' with hcommit | ⟨fault, hcommit⟩
        · refine Or.inl ⟨a, db', rfl, ?_⟩
          simp [Sql.transaction, exec_bind, exec_tryCatch, exec_adapt, hbegin, hbody, hcommit]
        · refine Or.inr ⟨onFault fault, db'.nextMessage, ?_, Or.inr rfl⟩
          simp [Sql.transaction, exec_bind, exec_tryCatch, exec_adapt, hbegin, hbody, hcommit]
  · refine Or.inr ⟨onFault fault, db.nextMessage, ?_, Or.inl rfl⟩
    simp [Sql.transaction, exec_bind, exec_tryCatch, exec_adapt, hbegin]

/-- A transaction that fails leaves the tables as they were, whatever made it fail. -/
theorem transaction_error {ε α : Type} {onFault : DatabaseFault → ε}
    {body : ExceptT ε (StateM Database) α} {db : Database} {e : ε}
    (h : (exec (Sql.transaction onFault body) db).1 = .error e) :
    ∃ next, (exec (Sql.transaction onFault body) db).2 = { db with nextMessage := next } := by
  rcases @transaction_cases ε α onFault body db with ⟨a, db', _, hrun⟩ | ⟨_, next, hrun, _⟩
  · rw [hrun] at h
    cases h
  · rw [hrun]
    exact ⟨next, rfl⟩

/-- A publish appends its batch, or it fails and appends nothing. -/
theorem publish_cases (batch : List Envelope) (db : Database) :
    (publish batch).run db = (.ok (), db.posted batch) ∨
      ∃ e next, (publish batch).run db = (.error e, { db with nextMessage := next }) ∧
        db.nextMessage ≤ next := by
  cases batch with
  | nil => exact Or.inl rfl
  | cons first rest =>
    let body : ExceptT BusError (StateM Database) Unit := do
      busQuery ((first :: rest).forM insertMessage)
      busQuery (Sql.execute "SELECT pg_notify($1, '')")
    have hrun : (publish (first :: rest)).run db =
        exec (Sql.transaction BusError.database body) db := rfl
    have hbody : exec body db = (.ok (), db.posted (first :: rest)) ∨
        ∃ e earlier, exec body db = (.error e, db.posted earlier) := by
      simp only [body, busQuery, exec_bind, exec_adapt]
      rcases insertMessages_cases (first :: rest) db with h | ⟨fault, earlier, h⟩
      · rw [h]
        rcases execute_cases "SELECT pg_notify($1, '')" [] (db.posted (first :: rest)) with
          hnotify | ⟨fault, hnotify⟩
        · exact Or.inl (by simp [hnotify])
        · exact Or.inr ⟨.database fault, first :: rest, by simp [hnotify]⟩
      · rw [h]
        exact Or.inr ⟨.database fault, earlier, by simp⟩
    rw [hrun]
    rcases transaction_cases body db with ⟨a, db', hok, h⟩ | ⟨e, next, h, hnext⟩
    · rcases hbody with hbody | ⟨e, earlier, hbody⟩
      · rw [hok] at hbody
        cases hbody
        exact Or.inl h
      · rw [hok] at hbody
        cases hbody
    · refine Or.inr ⟨e, next, h, ?_⟩
      rcases hnext with rfl | rfl
      · exact Int.le_refl _
      · rcases hbody with hbody | ⟨e, earlier, hbody⟩
        · rw [hbody, posted_next]
          omega
        · rw [hbody, posted_next]
          omega

end Publish

section Marks

/-- The database with a mark on the row of a number. -/
def marked (id : Int) (db : Database) : Database :=
  match db.messages.get? id with
  | some row => { db with messages := db.messages.insert { row with delivered := true } }
  | none => db

theorem marked_rows (id : Int) (db : Database) :
    (db.marked id).messages.rows = db.messages.rows.map (BusRow.mark id) := by
  refine Table.rows_eq_map (BusRow.mark_id id) ?_
  intro k
  unfold marked
  cases hrow : db.messages.get? id with
  | none =>
    dsimp only
    cases hk : db.messages.get? k with
    | none => rfl
    | some other =>
      have hne : other.id ≠ id := by
        intro heq
        have hkey : other.id = k := Table.key_of_get? hk
        rw [← hkey, heq, hrow] at hk
        cases hk
      rw [Option.map_some, BusRow.mark_of_ne hne]
  | some row =>
    have hid : row.id = id := Table.key_of_get? hrow
    dsimp only
    by_cases hk : id = k
    · subst hk
      rw [Table.get?_insert, hrow]
      simp [BusRow.mark, hid]
    · have hne : compare row.id k ≠ .eq := by
        intro heq
        exact hk (hid.symm.trans (Std.LawfulEqOrd.eq_of_compare heq))
      rw [Table.get?_insert, if_neg hne]
      cases hother : db.messages.get? k with
      | none => rfl
      | some other =>
        have hkey : other.id = k := Table.key_of_get? hother
        have hne : other.id ≠ id := by rw [hkey]; exact Ne.symm hk
        rw [Option.map_some, BusRow.mark_of_ne hne]

theorem marked_frame (id : Int) (db : Database) :
    (db.marked id).nextMessage = db.nextMessage ∧ (db.marked id).failing = db.failing := by
  unfold marked
  split <;> exact ⟨rfl, rfl⟩

theorem markDelivered_cases (id : Int) (db : Database) :
    exec (markDelivered id) db = (.ok (), db.marked id) ∨
      ∃ fault, exec (markDelivered id) db = (.error fault, db) := by
  rcases execute_cases "UPDATE bus_messages SET delivered_at = NOW() WHERE id = $1" [] db with
    h | ⟨fault, h⟩
  · refine Or.inl ?_
    simp only [markDelivered, exec_bind, h, exec_modify]
    rfl
  · exact Or.inr ⟨fault, by simp only [markDelivered, exec_bind, h]⟩

theorem exec_markDelivered (h : db.Quiet) (id : Int) :
    exec (markDelivered id) db = (.ok (), db.marked id) := by
  simp only [markDelivered, exec_bind, exec_execute_nil h, exec_modify]
  rfl

end Marks

section Pages

/-- What a page is read from. -/
def unread (exceptions : List Int) (db : Database) : List BusRow :=
  db.messages.rows.filter fun r => !r.delivered && !exceptions.contains r.id

theorem mem_unread {exceptions : List Int} {row : BusRow} :
    row ∈ db.unread exceptions ↔
      row ∈ db.messages.rows ∧ row.delivered = false ∧ row.id ∉ exceptions := by
  simp [unread]

theorem unread_ascending (exceptions : List Int) (db : Database) :
    (db.unread exceptions).Pairwise fun a b => a.id < b.id :=
  db.messages_ascending.filter _

/-- A row that is marked is not read any more. -/
theorem unread_marked (exceptions : List Int) (id : Int) (db : Database) :
    (db.marked id).unread exceptions = (db.unread exceptions).filter fun r => r.id != id := by
  rw [unread, marked_rows, unread, List.filter_filter]
  induction db.messages.rows with
  | nil => rfl
  | cons row rest ih =>
    rw [List.map_cons, List.filter_cons, List.filter_cons, ih]
    by_cases hid : row.id = id
    · have hmarked : (row.mark id).delivered = true := BusRow.mark_delivered.2 (Or.inl hid)
      simp [hmarked, hid]
    · simp [BusRow.mark_of_ne hid, hid]

/-- A row that is left out is not read any more. -/
theorem unread_concat (exceptions : List Int) (id : Int) (db : Database) :
    db.unread (exceptions ++ [id]) = (db.unread exceptions).filter fun r => r.id != id := by
  rw [unread, unread, List.filter_filter]
  refine List.filter_congr ?_
  intro row _
  by_cases hid : row.id = id <;> simp [hid]

/-- Without its first row there is only the rest of what is read. -/
theorem unread_tail {exceptions : List Int} {row : BusRow} {more : List BusRow}
    (h : db.unread exceptions = row :: more) :
    ((db.unread exceptions).filter fun r => r.id != row.id) = more := by
  have hascending := db.unread_ascending exceptions
  rw [h, List.pairwise_cons] at hascending
  rw [h, List.filter_cons_of_neg (by simp), List.filter_eq_self]
  intro other hother
  have hlt := hascending.1 other hother
  simp only [bne_iff_ne]
  omega

theorem selectMessages_cases (exceptions : List Int) (db : Database) :
    exec (selectMessages exceptions) db = (.ok ((db.unread exceptions).take pageSize), db) ∨
      ∃ fault, exec (selectMessages exceptions) db = (.error fault, db) := by
  rcases execute_cases
    ("SELECT id, topic, payload FROM bus_messages WHERE delivered_at IS NULL AND " ++
      "NOT (id = ANY($1)) ORDER BY id LIMIT $2") [] db with h | ⟨fault, h⟩
  · exact Or.inl (by simp only [selectMessages, exec_bind, h]; rfl)
  · exact Or.inr ⟨fault, by simp only [selectMessages, exec_bind, h]⟩

theorem exec_selectMessages (h : db.Quiet) (exceptions : List Int) :
    exec (selectMessages exceptions) db = (.ok ((db.unread exceptions).take pageSize), db) := by
  simp only [selectMessages, exec_bind, exec_execute_nil h]
  rfl

end Pages

end Database

end ScriptedChat
