import Mathlib.Data.List.Sort
import ScriptedChat.Proofs.Bus.Reading

/-!
The bus in a database keeps the order and loses nothing. Batches are published, rows come from
elsewhere, one subscriber after the other reads and acknowledges, and statements may fail at any
time. Whatever happened before, a subscriber hands out rows by ascending number, a row is marked
only when it was acknowledged or is no envelope, and a new subscriber is handed every envelope that
is not marked, just once, in order and as it was published.
-/
namespace ScriptedChat

open ScriptedChat.Action

/-- What the subscriber at work is asked for. -/
inductive Reading
  | next
  | ack (id : Int)
  deriving DecidableEq

/-- What happens on the bus. -/
inductive Occurrence
  | publish (batch : List Envelope)
  /-- A row that comes from elsewhere. -/
  | insert (topic destination : String) (payload : Json)
  | reading (r : Reading)
  /-- A new subscriber takes over. -/
  | replace
  /-- From now on other statements are told to fail. -/
  | outage (failing : List String)

namespace Ledger

/-- The ledger after a reading. Only what was handed out can be acknowledged. -/
def read (l : Ledger) : Reading → Ledger
  | .next =>
    let run := exec RowBus.next l.bus
    { l with
      bus := run.2
      handed := l.handed ++ match run.1 with
        | .ok (some d) => [d]
        | _ => [] }
  | .ack id =>
    if id ∈ l.handed.map Delivery.id then
      { l with bus := (exec (RowBus.ack id) l.bus).2, acked := l.acked ++ [id] }
    else l

/-- The ledger with a new subscriber. -/
def replaced (l : Ledger) : Ledger := { l with bus := { l.bus with inbox := {} }, handed := [] }

def after (l : Ledger) : Occurrence → Ledger
  | .publish batch =>
    let run := (Database.publish batch).run l.bus.database
    { l with
      bus := { l.bus with database := run.2 }
      published := l.published ++ match run.1 with
        | .ok _ => Queue.number l.bus.database.nextMessage batch
        | .error _ => [] }
  | .insert topic destination payload =>
    { l with bus := { l.bus with
      database := Database.appendRow topic destination payload false l.bus.database } }
  | .reading r => l.read r
  | .replace => l.replaced
  | .outage failing =>
    { l with bus := { l.bus with database := { l.bus.database with failing := failing } } }

/-- The ledger of an empty bus. -/
def opened : Ledger := { bus := ⟨{}, {}⟩ }

/-- The deliveries without a mark. -/
def outstanding (l : Ledger) : List Delivery :=
  (l.rows.filter fun row => !row.delivered).filterMap BusRow.delivery?

/-- The deliveries without a mark that the subscriber at work did not hand out. -/
def due (l : Ledger) : List Delivery :=
  (l.rows.filter fun row => !row.delivered && !(l.handed.map Delivery.id).contains row.id).filterMap
    BusRow.delivery?

theorem filterMap_ascending {rows : List BusRow} (h : rows.Pairwise fun a b => a.id < b.id) :
    (rows.filterMap BusRow.delivery?).Pairwise fun d e => d.id < e.id := by
  rw [List.pairwise_filterMap]
  refine h.imp ?_
  intro a b hlt d hd e he
  rw [BusRow.delivery?_id hd, BusRow.delivery?_id he]
  exact hlt

namespace Sound

variable {l : Ledger}

theorem opened : Sound opened where
  fresh _ h := absurd h List.not_mem_nil
  ascending := List.Pairwise.nil
  listed _ h := absurd h List.not_mem_nil
  buffered _ h := absurd h List.not_mem_nil
  unmarked _ h := absurd h List.not_mem_nil
  inFlight _ h := absurd h List.not_mem_nil
  ahead _ h := absurd h List.not_mem_nil
  marked _ h := absurd h List.not_mem_nil
  kept _ h := absurd h List.not_mem_nil

theorem rows_ascending (l : Ledger) : l.rows.Pairwise fun a b => a.id < b.id :=
  l.bus.database.messages_ascending

/-- A delivery in the buffer was not handed out. -/
theorem not_handed (h : l.Sound) {d : Delivery} (hd : d ∈ l.bus.inbox.buffer) :
    d.id ∉ l.handed.map Delivery.id := by
  intro hin
  obtain ⟨e, he, hid⟩ := List.mem_map.1 hin
  have hlt := (List.pairwise_append.1 h.ascending).2.2 e he d hd
  omega

/-- What is still to be handed out is what is due, in the same order. -/
theorem left_eq (h : l.Sound) : l.bus.left = l.due := by
  have hnumbers : Std.Asymm fun d e : Delivery => d.id < e.id := ⟨fun _ _ => lt_asymm⟩
  refine List.Pairwise.eq_of_mem_iff ?_ (filterMap_ascending ((rows_ascending l).filter _)) ?_
  · rw [RowBus.left, List.pairwise_append]
    refine ⟨(List.pairwise_append.1 h.ascending).2.1,
      filterMap_ascending (Database.unread_ascending _ _), ?_⟩
    intro d hd e he
    obtain ⟨row, hrow, hdelivery⟩ := List.mem_filterMap.1 he
    rw [BusRow.delivery?_id hdelivery]
    exact h.seen_lt hrow d (List.mem_append_right _ hd)
  · intro d
    have hdue : d ∈ l.due ↔ ∃ row ∈ l.rows, row.delivered = false ∧
        row.id ∉ l.handed.map Delivery.id ∧ row.delivery? = some d := by
      simp [due, List.mem_filterMap, and_assoc]
    rw [hdue, RowBus.left, List.mem_append, List.mem_filterMap]
    constructor
    · rintro (hd | ⟨row, hrow, hdelivery⟩)
      · obtain ⟨row, hrow, hdelivery⟩ := h.listed d (List.mem_append_right _ hd)
        have hid := BusRow.delivery?_id hdelivery
        refine ⟨row, hrow, h.unmarked row hrow ⟨d, hd, hid⟩, ?_, hdelivery⟩
        rw [← hid]
        exact h.not_handed hd
      · obtain ⟨hmem, hdelivered, _⟩ := Database.mem_unread.1 hrow
        refine ⟨row, hmem, hdelivered, ?_, hdelivery⟩
        intro hin
        obtain ⟨e, he, hid⟩ := List.mem_map.1 hin
        have hlt := h.seen_lt hrow e (List.mem_append_left _ he)
        omega
    · rintro ⟨row, hrow, hdelivered, hout, hdelivery⟩
      by_cases hin : row.id ∈ l.bus.inbox.inFlight
      · -- The row was read, and what was read and not handed out is in the buffer.
        obtain ⟨e, he, hid⟩ := h.inFlight row.id hin
        rcases List.mem_append.1 he with he | he
        · exact absurd (List.mem_map.2 ⟨e, he, hid⟩) hout
        · obtain ⟨other, hother, hotherDelivery⟩ := h.listed e (List.mem_append_right _ he)
          have hsame : other = row :=
            row_unique l hother hrow ((BusRow.delivery?_id hotherDelivery).symm.trans hid)
          rw [hsame, hdelivery] at hotherDelivery
          cases hotherDelivery
          exact Or.inl he
      · exact Or.inr ⟨row, Database.mem_unread.2 ⟨hrow, hdelivered, hin⟩, hdelivery⟩

/-- The database may get more rows behind those that there are. -/
theorem grow (h : l.Sound) {db : Database} (rows : List BusRow) (published : List Delivery)
    (hfresh : db.Fresh) (hrows : db.messages.rows = l.rows ++ rows)
    (hnew : ∀ row ∈ rows, row.delivered = false ∧ l.bus.database.nextMessage ≤ row.id)
    (hpublished : ∀ d ∈ published, d ∈ l.published ∨ ∃ row ∈ rows, row.delivery? = some d) :
    Sound { l with bus := { l.bus with database := db }, published := published } := by
  have hsource : ∀ row ∈ db.messages.rows, row ∈ l.rows ∨ row ∈ rows := by
    intro row hrow
    rwa [hrows, List.mem_append] at hrow
  have hlisted : ∀ d, (∃ row ∈ l.rows, row.delivery? = some d) →
      ∃ row ∈ db.messages.rows, row.delivery? = some d := by
    rintro d ⟨row, hrow, hd⟩
    rw [hrows]
    exact ⟨row, List.mem_append_left _ hrow, hd⟩
  refine ⟨hfresh, h.ascending, fun d hd => hlisted d (h.listed d hd), h.buffered, ?_, h.inFlight,
    ?_, ?_, ?_⟩
  · intro row hrow hbuffer
    rcases hsource row hrow with hrow | hrow
    · exact h.unmarked row hrow hbuffer
    · exact (hnew row hrow).1
  · intro row hrow hdelivered
    rcases hsource row hrow with hrow | hrow
    · exact h.ahead row hrow hdelivered
    · refine Or.inr ?_
      intro d hd
      obtain ⟨old, hold, hdelivery⟩ := h.listed d hd
      have hid := BusRow.delivery?_id hdelivery
      have hlt := h.fresh old hold
      have hle := (hnew row hrow).2
      omega
  · intro row hrow hdelivered
    rcases hsource row hrow with hrow | hrow
    · exact h.marked row hrow hdelivered
    · rw [(hnew row hrow).1] at hdelivered
      cases hdelivered
  · intro d hd
    rcases hpublished d hd with hd | ⟨row, hrow, hdelivery⟩
    · exact hlisted d (h.kept d hd)
    · have hmem : row ∈ db.messages.rows := by
        rw [hrows]
        exact List.mem_append_right _ hrow
      exact ⟨row, hmem, hdelivery⟩

/-- The database may change in all but its rows. -/
theorem keepRows (h : l.Sound) {db : Database} (hrows : db.messages = l.bus.database.messages)
    (hnext : l.bus.database.nextMessage ≤ db.nextMessage) :
    Sound { l with bus := { l.bus with database := db } } := by
  refine h.grow [] l.published ?_ ?_ (fun _ hrow => absurd hrow List.not_mem_nil) fun d => Or.inl
  · intro row hrow
    rw [hrows] at hrow
    exact Int.lt_of_lt_of_le (h.fresh row hrow) hnext
  · rw [hrows, List.append_nil]
    rfl

theorem publish (h : l.Sound) (batch : List Envelope) : (l.after (.publish batch)).Sound := by
  rw [after]
  dsimp only
  rcases Database.publish_cases batch l.bus.database with hrun | ⟨e, next, hrun, hnext⟩
  · rw [hrun]
    obtain ⟨_, hlow⟩ := Queue.number_ids l.bus.database.nextMessage batch
    refine h.grow ((Queue.number l.bus.database.nextMessage batch).map Delivery.row) _
      (Database.posted_fresh batch h.fresh) (Database.posted_rows batch h.fresh) ?_ ?_
    · intro row hrow
      obtain ⟨d, hd, rfl⟩ := List.mem_map.1 hrow
      exact ⟨rfl, hlow d hd⟩
    · intro d hd
      rcases List.mem_append.1 hd with hd | hd
      · exact Or.inl hd
      · exact Or.inr ⟨d.row, List.mem_map_of_mem hd, BusRow.delivery?_row d⟩
  · rw [hrun]
    dsimp only
    rw [List.append_nil]
    exact h.keepRows rfl hnext

theorem insert (h : l.Sound) (topic destination : String) (payload : Json) :
    (l.after (.insert topic destination payload)).Sound := by
  refine h.grow _ l.published (Database.appendRow_fresh h.fresh topic destination payload false)
    (Database.appendRow_rows h.fresh topic destination payload false) ?_ fun d => Or.inl
  intro row hrow
  rw [List.mem_singleton.1 hrow]
  exact ⟨rfl, Int.le_refl _⟩

/-- More acknowledgements may be written down than there are. -/
theorem moreAcked (h : l.Sound) {acked : List Int} (hacked : ∀ i ∈ l.acked, i ∈ acked) :
    Sound { l with acked := acked } :=
  ⟨h.fresh, h.ascending, h.listed, h.buffered, h.unmarked, h.inFlight, h.ahead,
    fun row hrow hdelivered => (h.marked row hrow hdelivered).imp_left (hacked row.id), h.kept⟩

/-- A row that is marked need not be in flight any more. -/
theorem release (h : l.Sound) {id : Int} (hbuffer : ∀ d ∈ l.bus.inbox.buffer, d.id ≠ id)
    (hmarked : ∀ row ∈ l.rows, row.id = id → row.delivered = true) :
    Sound { l with bus := { l.bus with inbox := { l.bus.inbox with
      inFlight := l.bus.inbox.inFlight.filter (· != id) } } } := by
  have hkept : ∀ other, other ≠ id → other ∈ l.bus.inbox.inFlight →
      other ∈ l.bus.inbox.inFlight.filter (· != id) := by
    intro other hne hin
    exact List.mem_filter.2 ⟨hin, by simpa using hne⟩
  refine ⟨h.fresh, h.ascending, h.listed, ?_, h.unmarked, ?_, ?_, h.marked, h.kept⟩
  · intro d hd
    exact hkept d.id (hbuffer d hd) (h.buffered d hd)
  · intro other hin
    exact h.inFlight other (List.mem_filter.1 hin).1
  · intro row hrow hdelivered
    refine (h.ahead row hrow hdelivered).imp_left (hkept row.id ?_)
    intro hid
    rw [hmarked row hrow hid] at hdelivered
    cases hdelivered

theorem ack (h : l.Sound) {id : Int} (hid : id ∈ l.handed.map Delivery.id) :
    Sound { l with bus := (exec (RowBus.ack id) l.bus).2, acked := l.acked ++ [id] } := by
  have hacked : ∀ i ∈ l.acked, i ∈ l.acked ++ [id] := fun i hi => List.mem_append_left _ hi
  have hbuffer : ∀ d ∈ l.bus.inbox.buffer, d.id ≠ id := by
    rintro d hd rfl
    exact h.not_handed hd hid
  simp only [RowBus.ack, exec_bind, RowBus.exec_sql]
  rcases Database.markDelivered_cases id l.bus.database with hmark | ⟨fault, hmark⟩
  · rw [hmark]
    have hsound := h.mark (l.acked ++ [id]) hacked hbuffer fun _ _ _ =>
      Or.inl (List.mem_append_right _ (List.mem_singleton_self id))
    refine hsound.release hbuffer ?_
    intro row hrow heq
    have hrow : row ∈ (l.bus.database.marked id).messages.rows := hrow
    rw [Database.marked_rows] at hrow
    obtain ⟨r, _, rfl⟩ := List.mem_map.1 hrow
    rw [BusRow.mark_id] at heq
    exact BusRow.mark_delivered.2 (Or.inl heq)
  · rw [hmark]
    exact h.moreAcked hacked

theorem replaced (h : l.Sound) : l.replaced.Sound := by
  have hnone : ∀ d ∈ l.replaced.seen, False := fun d hd => absurd hd List.not_mem_nil
  exact ⟨h.fresh, List.Pairwise.nil, fun d hd => (hnone d hd).elim,
    fun d hd => absurd hd List.not_mem_nil,
    fun _ _ ⟨d, hd, _⟩ => absurd hd List.not_mem_nil,
    fun _ hin => absurd hin List.not_mem_nil,
    fun _ _ _ => Or.inr fun d hd => (hnone d hd).elim, h.marked, h.kept⟩

theorem read (h : l.Sound) (r : Reading) : (l.read r).Sound := by
  cases r with
  | next =>
    have hnext := h.exec_next
    rw [Ledger.read]
    generalize exec RowBus.next l.bus = run at hnext ⊢
    obtain ⟨outcome, b⟩ := run
    cases hnext with
    | handed d _ _ hsound _ => exact hsound
    | drained _ _ hrefills =>
      dsimp only
      rw [List.append_nil]
      exact hrefills.sound
    | failed e _ hrefills _ =>
      dsimp only
      rw [List.append_nil]
      exact hrefills.sound
  | ack id =>
    rw [Ledger.read]
    split
    · rename_i hid
      exact h.ack hid
    · exact h

theorem after (h : l.Sound) (o : Occurrence) : (l.after o).Sound := by
  cases o with
  | publish batch => exact h.publish batch
  | insert topic destination payload => exact h.insert topic destination payload
  | reading r => exact h.read r
  | replace => exact h.replaced
  | outage failing => exact h.keepRows rfl (Int.le_refl _)

/-- A mark on a row that was handed out does not count among those that were not. -/
theorem filter_mark {ids : List Int} {id : Int} (hid : id ∈ ids) (rows : List BusRow) :
    ((rows.map (BusRow.mark id)).filter fun row => !row.delivered && !ids.contains row.id) =
      rows.filter fun row => !row.delivered && !ids.contains row.id := by
  induction rows with
  | nil => rfl
  | cons row rest ih =>
    rw [List.map_cons, List.filter_cons, List.filter_cons, ih]
    by_cases heq : row.id = id
    · have hout : row.id ∈ ids := by rw [heq]; exact hid
      simp [hout]
    · rw [BusRow.mark_of_ne heq]

theorem exec_ack_quiet {b : RowBus} (hquiet : b.database.Quiet) (id : Int) :
    exec (RowBus.ack id) b =
      (.ok (), ⟨⟨b.inbox.buffer, b.inbox.inFlight.filter (· != id)⟩, b.database.marked id⟩) := by
  simp only [RowBus.ack, exec_bind, RowBus.exec_sql, Database.exec_markDelivered hquiet]
  rfl

/-- On a quiet database an acknowledgement changes nothing in what is due. -/
theorem ack_quiet (hquiet : l.bus.database.Quiet) (id : Int) :
    (l.read (.ack id)).bus.database.Quiet ∧ (l.read (.ack id)).handed = l.handed ∧
      (l.read (.ack id)).due = l.due := by
  rw [Ledger.read]
  split
  · rename_i hid
    rw [exec_ack_quiet hquiet]
    refine ⟨(Database.marked_frame id l.bus.database).2.trans hquiet, rfl, ?_⟩
    have hrows := Database.marked_rows id l.bus.database
    rw [due, rows]
    dsimp only
    rw [hrows, filter_mark hid]
    rfl
  · exact ⟨hquiet, rfl, rfl⟩

/-- On a quiet database a next delivery takes the first of what is due. -/
theorem read_next_quiet (h : l.Sound) (hquiet : l.bus.database.Quiet) :
    (l.read .next).bus.database.Quiet ∧
      (l.read .next).handed = l.handed ++ l.due.take 1 ∧ (l.read .next).due = l.due.drop 1 := by
  have hsound := h.read .next
  have hnext := h.exec_next
  rw [← hsound.left_eq, ← h.left_eq]
  rw [Ledger.read] at hsound ⊢
  generalize exec RowBus.next l.bus = run at hnext hsound ⊢
  obtain ⟨outcome, b⟩ := run
  cases hnext with
  | handed d _ hleft _ hfailing =>
    refine ⟨hfailing.trans hquiet, ?_, ?_⟩
    · rw [hleft]
      rfl
    · rw [hleft]
      rfl
  | drained _ hleft hrefills =>
    refine ⟨hrefills.failing.trans hquiet, ?_, ?_⟩
    · rw [hleft]
      rfl
    · rw [hleft]
      exact hrefills.left.trans hleft
  | failed e _ _ hloud => exact absurd hquiet hloud

/-- Readings on a quiet database hand out what is due from the front, however they are mixed with
acknowledgements. -/
theorem readings_handed (h : l.Sound) (hquiet : l.bus.database.Quiet) (readings : List Reading) :
    (readings.foldl Ledger.read l).handed = l.handed ++ l.due.take (readings.count .next) := by
  induction readings generalizing l with
  | nil => simp
  | cons r rest ih =>
    rw [List.foldl_cons]
    cases r with
    | next =>
      obtain ⟨hquiet', hhanded, hdue⟩ := h.read_next_quiet hquiet
      rw [ih (h.read .next) hquiet', hhanded, hdue, List.append_assoc, List.count_cons_self,
        Nat.add_comm, List.take_add]
    | ack id =>
      obtain ⟨hquiet', hhanded, hdue⟩ := ack_quiet hquiet id
      rw [ih (h.read (.ack id)) hquiet', hhanded, hdue, List.count_cons_of_ne (by simp)]

theorem run (h : l.Sound) (occurrences : List Occurrence) :
    (occurrences.foldl Ledger.after l).Sound := by
  induction occurrences generalizing l with
  | nil => exact h
  | cons o rest ih => exact ih (h.after o)

end Sound

namespace Sound

variable {l : Ledger}

theorem drained (h : l.Sound) (hquiet : l.bus.database.Quiet) (readings : List Reading) :
    (readings.foldl Ledger.read l.replaced).handed =
      l.outstanding.take (readings.count .next) := by
  have hdue : l.replaced.due = l.outstanding := by
    have hall : ∀ row : BusRow,
        (!row.delivered && !(l.replaced.handed.map Delivery.id).contains row.id) =
          !row.delivered := by
      intro row
      simp [Ledger.replaced]
    rw [due, outstanding]
    simp only [hall]
    rfl
  rw [h.replaced.readings_handed hquiet, hdue]
  rfl

end Sound

/-- A row that is no envelope comes between two orders of a batch and a later one. The first
subscriber acknowledges one of the orders, and the second one is handed the other two. -/
example :
    let stop : String → Envelope := fun bot => .lifecycle ⟨bot, .stop, none⟩
    let occurrences : List Occurrence := [.publish [stop "a", stop "b"],
      .insert "weather" "a" .null, .reading .next, .reading .next, .reading (.ack 2),
      .publish [stop "c"], .replace, .reading .next, .reading .next, .reading .next]
    (occurrences.foldl after opened).handed = [⟨1, stop "a"⟩, ⟨4, stop "c"⟩] := by
  decide +kernel

end Ledger

end ScriptedChat
