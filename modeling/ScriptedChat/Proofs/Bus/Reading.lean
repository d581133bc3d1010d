import ScriptedChat.Proofs.Database.Messages

/-!
How a subscriber reads the rows of the bus. Beside the bus a ledger is kept of the deliveries that
the subscriber handed out, of the acknowledgements and of what was published. What a subscriber
has still to hand out are the deliveries in its buffer and then those that it has not read yet.
Reading more rows does not change this, whether or not a statement fails on the way, and a delivery
that is handed out is the first of them. So it does not matter in what pages the rows are read.
-/
namespace ScriptedChat

open ScriptedChat.Action

namespace RowBus

/-- The rows that a page is read from. -/
def pending (b : RowBus) : List BusRow := b.database.unread b.inbox.inFlight

/-- What is still to be handed out. -/
def left (b : RowBus) : List Delivery :=
  b.inbox.buffer ++ b.pending.filterMap BusRow.delivery?

theorem exec_sql {α : Type} (statements : Sql α) (b : RowBus) :
    exec (sql statements) b =
      ((exec statements b.database).1.mapError BusError.database,
        { b with database := (exec statements b.database).2 }) := rfl

theorem exec_pop_nil {b : RowBus} (h : b.inbox.buffer = []) : exec pop b = (.ok none, b) := by
  simp [pop, exec_bind, h]

theorem exec_pop_cons {b : RowBus} {d : Delivery} {rest : List Delivery}
    (h : b.inbox.buffer = d :: rest) :
    exec pop b = (.ok (some d), { b with inbox := { b.inbox with buffer := rest } }) := by
  simp [pop, exec_bind, exec_map, h, Except.map]

end RowBus

/-- A bus with a record of what happened on it. -/
structure Ledger where
  bus : RowBus
  /-- What the subscriber at work handed out. -/
  handed : List Delivery := []
  /-- The numbers that were acknowledged, by any subscriber. -/
  acked : List Int := []
  /-- What was published, under the numbers of its rows. -/
  published : List Delivery := []

namespace Ledger

def rows (l : Ledger) : List BusRow := l.bus.database.messages.rows

/-- The deliveries that the subscriber at work has read. -/
def seen (l : Ledger) : List Delivery := l.handed ++ l.bus.inbox.buffer

/-- What holds at all times. -/
structure Sound (l : Ledger) : Prop where
  fresh : l.bus.database.Fresh
  ascending : l.seen.Pairwise fun d e => d.id < e.id
  listed : ∀ d ∈ l.seen, ∃ row ∈ l.rows, row.delivery? = some d
  buffered : ∀ d ∈ l.bus.inbox.buffer, d.id ∈ l.bus.inbox.inFlight
  unmarked : ∀ row ∈ l.rows, (∃ d ∈ l.bus.inbox.buffer, d.id = row.id) → row.delivered = false
  inFlight : ∀ id ∈ l.bus.inbox.inFlight, ∃ d ∈ l.seen, d.id = id
  ahead : ∀ row ∈ l.rows, row.delivered = false →
    row.id ∈ l.bus.inbox.inFlight ∨ ∀ d ∈ l.seen, d.id < row.id
  marked : ∀ row ∈ l.rows, row.delivered = true → row.id ∈ l.acked ∨ row.delivery? = none
  kept : ∀ d ∈ l.published, ∃ row ∈ l.rows, row.delivery? = some d

namespace Sound

variable {l : Ledger} {row : BusRow} {more : List BusRow}

theorem row_unique (l : Ledger) {a b : BusRow} (ha : a ∈ l.rows) (hb : b ∈ l.rows)
    (hid : a.id = b.id) : a = b := by
  have hget := Table.get?_key_of_mem ha
  rw [hid, Table.get?_key_of_mem hb] at hget
  exact (Option.some.inj hget).symm

/-- A row that is still to be read comes behind all that was read. -/
theorem seen_lt (h : l.Sound) (hrow : row ∈ l.bus.pending) : ∀ d ∈ l.seen, d.id < row.id := by
  obtain ⟨hmem, hdelivered, hout⟩ := Database.mem_unread.1 hrow
  exact (h.ahead row hmem hdelivered).resolve_left hout

/-- A row may be marked that is not in the buffer, if it was acknowledged or is no envelope. -/
theorem mark (h : l.Sound) {id : Int} (acked : List Int) (hacked : ∀ i ∈ l.acked, i ∈ acked)
    (hbuffer : ∀ d ∈ l.bus.inbox.buffer, d.id ≠ id)
    (hreason : ∀ row ∈ l.rows, row.id = id → id ∈ acked ∨ row.delivery? = none) :
    Sound { l with
      bus := { l.bus with database := l.bus.database.marked id }
      acked := acked } := by
  have hrows : (l.bus.database.marked id).messages.rows = l.rows.map (BusRow.mark id) :=
    Database.marked_rows id l.bus.database
  have hlisted : ∀ d, (∃ row ∈ l.rows, row.delivery? = some d) →
      ∃ row ∈ (l.bus.database.marked id).messages.rows, row.delivery? = some d := by
    rintro d ⟨row, hrow, hd⟩
    rw [hrows]
    exact ⟨row.mark id, List.mem_map_of_mem hrow, by rw [BusRow.mark_delivery?, hd]⟩
  have hsource : ∀ row ∈ (l.bus.database.marked id).messages.rows,
      ∃ r ∈ l.rows, row = r.mark id := by
    intro row hrow
    rw [hrows] at hrow
    obtain ⟨r, hr, heq⟩ := List.mem_map.1 hrow
    exact ⟨r, hr, heq.symm⟩
  refine ⟨?_, h.ascending, fun d hd => hlisted d (h.listed d hd), h.buffered, ?_, h.inFlight, ?_,
    ?_, fun d hd => hlisted d (h.kept d hd)⟩
  · intro row hrow
    obtain ⟨r, hr, rfl⟩ := hsource row hrow
    rw [BusRow.mark_id, (Database.marked_frame id l.bus.database).1]
    exact h.fresh r hr
  · rintro row hrow ⟨d, hd, hid⟩
    obtain ⟨r, hr, rfl⟩ := hsource row hrow
    rw [BusRow.mark_id] at hid
    have hne : r.id ≠ id := by
      rw [← hid]
      exact hbuffer d hd
    rw [BusRow.mark_of_ne hne]
    exact h.unmarked r hr ⟨d, hd, hid⟩
  · intro row hrow hdelivered
    obtain ⟨r, hr, rfl⟩ := hsource row hrow
    rw [BusRow.mark_id]
    refine h.ahead r hr ?_
    cases hmarked : r.delivered with
    | false => rfl
    | true =>
      rw [BusRow.mark_delivered.2 (Or.inr hmarked)] at hdelivered
      cases hdelivered
  · intro row hrow hdelivered
    obtain ⟨r, hr, rfl⟩ := hsource row hrow
    rw [BusRow.mark_id, BusRow.mark_delivery?]
    rcases BusRow.mark_delivered.1 hdelivered with hid | hdelivered
    · rw [hid]
      exact hreason r hr hid
    · exact (h.marked r hr hdelivered).imp_left (hacked r.id)

/-- The first row that is still to be read is taken into the buffer. -/
theorem takeInHand (h : l.Sound) (hpending : l.bus.pending = row :: more) {d : Delivery}
    (hd : row.delivery? = some d) :
    Sound { l with bus := { l.bus with
      inbox := ⟨l.bus.inbox.buffer ++ [d], l.bus.inbox.inFlight ++ [row.id]⟩ } } := by
  have hfirst : row ∈ l.bus.pending := by
    rw [hpending]
    exact List.mem_cons_self
  obtain ⟨hrow, hunmarked, _⟩ := Database.mem_unread.1 hfirst
  have hid : d.id = row.id := BusRow.delivery?_id hd
  have hseen : l.handed ++ (l.bus.inbox.buffer ++ [d]) = l.seen ++ [d] :=
    (List.append_assoc ..).symm
  refine ⟨h.fresh, ?_, ?_, ?_, ?_, ?_, ?_, h.marked, h.kept⟩
  · rw [seen, hseen, List.pairwise_append]
    refine ⟨h.ascending, List.pairwise_singleton _ _, ?_⟩
    intro e he d' hd'
    rw [List.mem_singleton.1 hd', hid]
    exact h.seen_lt hfirst e he
  · rw [seen, hseen]
    intro e he
    rcases List.mem_append.1 he with he | he
    · exact h.listed e he
    · rw [List.mem_singleton.1 he]
      exact ⟨row, hrow, hd⟩
  · intro e he
    rcases List.mem_append.1 he with he | he
    · exact List.mem_append_left _ (h.buffered e he)
    · rw [List.mem_singleton.1 he, hid]
      exact List.mem_append_right _ (List.mem_singleton_self _)
  · rintro other hother ⟨e, he, heid⟩
    rcases List.mem_append.1 he with he | he
    · exact h.unmarked other hother ⟨e, he, heid⟩
    · rw [List.mem_singleton.1 he, hid] at heid
      rw [← row_unique l hrow hother heid]
      exact hunmarked
  · rw [seen, hseen]
    intro id hin
    rcases List.mem_append.1 hin with hin | hin
    · obtain ⟨e, he, heid⟩ := h.inFlight id hin
      exact ⟨e, List.mem_append_left _ he, heid⟩
    · exact ⟨d, by simp, by rw [hid, List.mem_singleton.1 hin]⟩
  · rw [seen, hseen]
    intro other hother hdelivered
    by_cases hin : other.id ∈ l.bus.inbox.inFlight ++ [row.id]
    · exact Or.inl hin
    · refine Or.inr ?_
      rw [List.mem_append, not_or, List.mem_singleton] at hin
      have hlater : other ∈ l.bus.pending := Database.mem_unread.2 ⟨hother, hdelivered, hin.1⟩
      have hlt : row.id < other.id := by
        have hascending := Database.unread_ascending l.bus.inbox.inFlight l.bus.database
        have hunread : l.bus.database.unread l.bus.inbox.inFlight = row :: more := hpending
        rw [hunread, List.pairwise_cons] at hascending
        rw [hpending] at hlater
        rcases List.mem_cons.1 hlater with rfl | hlater
        · exact absurd rfl hin.2
        · exact hascending.1 other hlater
      intro e he
      rcases List.mem_append.1 he with he | he
      · exact h.seen_lt hlater e he
      · rw [List.mem_singleton.1 he, hid]
        exact hlt

end Sound

/-- A bus on which more rows were read, and nothing was handed out. -/
structure Refills (l : Ledger) (b : RowBus) : Prop where
  sound : Sound { l with bus := b }
  left : b.left = l.bus.left
  failing : b.database.failing = l.bus.database.failing

namespace Refills

variable {l : Ledger} {b c : RowBus}

theorem refl (h : l.Sound) : l.Refills l.bus := ⟨h, rfl, rfl⟩

theorem trans (h : l.Refills b) (h' : Refills { l with bus := b } c) : l.Refills c :=
  ⟨h'.sound, h'.left.trans h.left, h'.failing.trans h.failing⟩

end Refills

section Fetch

variable {l : Ledger} {row : BusRow} {more : List BusRow}

/-- A row is taken in hand or marked, unless the database fails. -/
theorem Sound.exec_take (h : l.Sound) (hpending : l.bus.pending = row :: more) :
    ∃ r b, exec (RowBus.take row) l.bus = (r, b) ∧ l.Refills b ∧
      ((r = .ok () ∧ b.pending = more) ∨ ((∃ e, r = .error e) ∧ ¬ l.bus.database.Quiet)) := by
  have hunread : l.bus.database.unread l.bus.inbox.inFlight = row :: more := hpending
  have htail := Database.unread_tail hunread
  cases hparts : Envelope.ofParts row.topic row.payload with
  | ok e =>
    have hd : row.delivery? = some ⟨row.id, e⟩ := by rw [BusRow.delivery?, hparts]
    have hafter : RowBus.pending { l.bus with
        inbox := ⟨l.bus.inbox.buffer ++ [⟨row.id, e⟩], l.bus.inbox.inFlight ++ [row.id]⟩ } =
          more := by
      rw [RowBus.pending, Database.unread_concat]
      exact htail
    refine ⟨.ok (), _, ?_, ⟨h.takeInHand hpending hd, ?_, rfl⟩, Or.inl ⟨rfl, hafter⟩⟩
    · simp only [RowBus.take, hparts, exec_modify]
    · rw [RowBus.left, hafter, RowBus.left, hpending, List.filterMap_cons_some hd,
        List.append_assoc]
      rfl
  | error fault =>
    have hd : row.delivery? = none := by rw [BusRow.delivery?, hparts]
    have hexec : exec (RowBus.take row) l.bus =
        exec (RowBus.sql (Database.markDelivered row.id)) l.bus := by
      simp only [RowBus.take, hparts]
    rw [hexec, RowBus.exec_sql]
    rcases Database.markDelivered_cases row.id l.bus.database with hmark | ⟨fault, hmark⟩
    · rw [hmark]
      have hfirst : row ∈ l.bus.pending := by
        rw [hpending]
        exact List.mem_cons_self
      obtain ⟨hrow, _, hout⟩ := Database.mem_unread.1 hfirst
      have hafter : RowBus.pending { l.bus with database := l.bus.database.marked row.id } =
          more := by
        rw [RowBus.pending, Database.unread_marked]
        exact htail
      have hsound : Sound { l with bus :=
          { l.bus with database := l.bus.database.marked row.id } } := by
        refine h.mark l.acked (fun _ hi => hi) ?_ ?_
        · intro d hd' heq
          exact hout (heq ▸ h.buffered d hd')
        · intro other hother heq
          rw [Sound.row_unique l hother hrow heq]
          exact Or.inr hd
      refine ⟨.ok (), _, rfl, ⟨hsound, ?_, ?_⟩, Or.inl ⟨rfl, hafter⟩⟩
      · rw [RowBus.left, hafter, RowBus.left, hpending, List.filterMap_cons_none hd]
      · exact (Database.marked_frame row.id l.bus.database).2
    · rw [hmark]
      refine ⟨_, _, rfl, Refills.refl h, Or.inr ⟨⟨_, rfl⟩, ?_⟩⟩
      intro hquiet
      rw [Database.exec_markDelivered hquiet] at hmark
      cases hmark

/-- Rows are taken one after the other until the database fails. -/
theorem Sound.exec_takeAll (h : l.Sound) (rows : List BusRow)
    (hpending : l.bus.pending = rows ++ more) :
    ∃ r b, exec (rows.forM RowBus.take) l.bus = (r, b) ∧ l.Refills b ∧
      ((r = .ok () ∧ b.pending = more) ∨ ((∃ e, r = .error e) ∧ ¬ l.bus.database.Quiet)) := by
  induction rows generalizing l with
  | nil => exact ⟨.ok (), l.bus, rfl, Refills.refl h, Or.inl ⟨rfl, hpending⟩⟩
  | cons row rest ih =>
    obtain ⟨r, b, hexec, hrefills, hcases⟩ := h.exec_take hpending
    have hfirst : exec ((row :: rest).forM RowBus.take) l.bus =
        exec (RowBus.take row >>= fun _ => rest.forM RowBus.take) l.bus := rfl
    rw [hfirst, exec_bind, hexec]
    rcases hcases with ⟨rfl, hafter⟩ | ⟨⟨e, rfl⟩, hloud⟩
    · obtain ⟨r, c, hrest, hrefills', hcases'⟩ := ih hrefills.sound hafter
      refine ⟨r, c, hrest, hrefills.trans hrefills', hcases'.imp_right ?_⟩
      intro hfailed
      refine ⟨hfailed.1, fun hquiet => hfailed.2 ?_⟩
      exact hrefills.failing.trans hquiet
    · exact ⟨.error e, b, rfl, hrefills, Or.inr ⟨⟨e, rfl⟩, hloud⟩⟩

/-- A page is read and put in hand, unless the database fails. -/
theorem Sound.exec_fetch (h : l.Sound) :
    ∃ r b, exec RowBus.fetch l.bus = (r, b) ∧ l.Refills b ∧
      ((r = .ok (!l.bus.pending.isEmpty) ∧ b.pending = l.bus.pending.drop Database.pageSize) ∨
        ((∃ e, r = .error e) ∧ ¬ l.bus.database.Quiet)) := by
  simp only [RowBus.fetch, exec_bind, exec_get, RowBus.exec_sql]
  rcases Database.selectMessages_cases l.bus.inbox.inFlight l.bus.database with
    hselect | ⟨fault, hselect⟩
  · rw [hselect]
    obtain ⟨r, b, hexec, hrefills, hcases⟩ :=
      h.exec_takeAll (l.bus.pending.take Database.pageSize) (List.take_append_drop _ _).symm
    have hpage : l.bus.database.unread l.bus.inbox.inFlight = l.bus.pending := rfl
    simp only [Outcome.mapError_ok, hpage, hexec]
    rcases hcases with ⟨rfl, hafter⟩ | ⟨⟨e, rfl⟩, hloud⟩
    · refine ⟨_, b, rfl, hrefills, Or.inl ⟨?_, hafter⟩⟩
      cases l.bus.pending <;> rfl
    · exact ⟨_, b, rfl, hrefills, Or.inr ⟨⟨e, rfl⟩, hloud⟩⟩
  · rw [hselect]
    refine ⟨_, l.bus, rfl, Refills.refl h, Or.inr ⟨⟨_, rfl⟩, ?_⟩⟩
    intro hquiet
    rw [Database.exec_selectMessages hquiet] at hselect
    cases hselect

end Fetch

/-- What comes of asking for the next delivery. -/
inductive Next (l : Ledger) : Except BusError (Option Delivery) → RowBus → Prop
  | handed (d : Delivery) (b : RowBus) (hleft : l.bus.left = d :: b.left)
      (hsound : Sound { l with bus := b, handed := l.handed ++ [d] })
      (hfailing : b.database.failing = l.bus.database.failing) : Next l (.ok (some d)) b
  | drained (b : RowBus) (hleft : l.bus.left = []) (hrefills : l.Refills b) :
      Next l (.ok none) b
  | failed (e : BusError) (b : RowBus) (hrefills : l.Refills b)
      (hloud : ¬ l.bus.database.Quiet) : Next l (.error e) b

section Next

variable {l : Ledger}

theorem Next.of_refills {b c : RowBus} {r : Except BusError (Option Delivery)}
    (h : l.Refills b) (hnext : Next { l with bus := b } r c) : Next l r c := by
  cases hnext with
  | handed d _ hleft hsound hfailing =>
    exact .handed d c (h.left.symm.trans hleft) hsound (hfailing.trans h.failing)
  | drained _ hleft hrefills => exact .drained c (h.left.symm.trans hleft) (h.trans hrefills)
  | failed e _ hrefills hloud =>
    refine .failed e c (h.trans hrefills) ?_
    intro hquiet
    exact hloud (h.failing.trans hquiet)

/-- The front of the buffer is handed out. -/
theorem Sound.pop (h : l.Sound) {d : Delivery} {rest : List Delivery}
    (hbuffer : l.bus.inbox.buffer = d :: rest) :
    Sound { l with
      bus := { l.bus with inbox := { l.bus.inbox with buffer := rest } }
      handed := l.handed ++ [d] } := by
  have hseen : (l.handed ++ [d]) ++ rest = l.seen := by
    rw [seen, hbuffer, List.append_assoc]
    rfl
  have hsub : ∀ e ∈ rest, e ∈ l.bus.inbox.buffer := by
    intro e he
    rw [hbuffer]
    exact List.mem_cons_of_mem _ he
  refine ⟨h.fresh, ?_, ?_, fun e he => h.buffered e (hsub e he), ?_, ?_, ?_, h.marked, h.kept⟩
  · rw [seen, hseen]
    exact h.ascending
  · rw [seen, hseen]
    exact h.listed
  · rintro row hrow ⟨e, he, hid⟩
    exact h.unmarked row hrow ⟨e, hsub e he, hid⟩
  · rw [seen, hseen]
    exact h.inFlight
  · rw [seen, hseen]
    exact h.ahead

theorem Sound.next_pop (h : l.Sound) {d : Delivery} {rest : List Delivery}
    (hbuffer : l.bus.inbox.buffer = d :: rest) :
    Next l (.ok (some d)) { l.bus with inbox := { l.bus.inbox with buffer := rest } } := by
  refine .handed d _ ?_ (h.pop hbuffer) rfl
  rw [RowBus.left, hbuffer]
  rfl

/-- Enough pages are read to hand out a delivery, if there is one. -/
theorem Sound.exec_nextWithin (pages : Nat) (h : l.Sound)
    (henough : l.bus.pending.length ≤ pages) :
    Next l (exec (RowBus.nextWithin pages) l.bus).1 (exec (RowBus.nextWithin pages) l.bus).2 := by
  -- A page without any envelope leaves the buffer empty, but it leaves fewer rows to read.
  induction pages generalizing l with
  | zero =>
    have hnone : l.bus.pending = [] := by
      apply List.eq_nil_of_length_eq_zero
      omega
    cases hbuffer : l.bus.inbox.buffer with
    | nil =>
      rw [RowBus.nextWithin, RowBus.exec_pop_nil hbuffer]
      refine .drained _ ?_ (Refills.refl h)
      rw [RowBus.left, hbuffer, hnone]
      rfl
    | cons d rest =>
      rw [RowBus.nextWithin, RowBus.exec_pop_cons hbuffer]
      exact h.next_pop hbuffer
  | succ pages ih =>
    cases hbuffer : l.bus.inbox.buffer with
    | cons d rest =>
      have hexec : exec (RowBus.nextWithin (pages + 1)) l.bus =
          (.ok (some d), { l.bus with inbox := { l.bus.inbox with buffer := rest } }) := by
        simp only [RowBus.nextWithin, exec_bind, RowBus.exec_pop_cons hbuffer, exec_pure]
      rw [hexec]
      exact h.next_pop hbuffer
    | nil =>
      obtain ⟨r, b, hfetch, hrefills, hcases⟩ := h.exec_fetch
      have hexec : exec (RowBus.nextWithin (pages + 1)) l.bus =
          exec (RowBus.fetch >>= fun some =>
            if some then RowBus.nextWithin pages else pure none) l.bus := by
        simp only [RowBus.nextWithin, exec_bind, RowBus.exec_pop_nil hbuffer]
      rw [hexec, exec_bind, hfetch]
      rcases hcases with ⟨rfl, hafter⟩ | ⟨⟨e, rfl⟩, hloud⟩
      · cases hpending : l.bus.pending with
        | nil =>
          refine .drained _ ?_ hrefills
          rw [RowBus.left, hbuffer, hpending]
          rfl
        | cons row more =>
          refine Next.of_refills hrefills (ih hrefills.sound ?_)
          show b.pending.length ≤ pages
          rw [hafter, List.length_drop]
          have hpage : 0 < Database.pageSize := by decide
          rw [hpending, List.length_cons] at henough ⊢
          omega
      · exact .failed e b hrefills hloud

/-- The next delivery is the first that is still to be handed out. -/
theorem Sound.exec_next (h : l.Sound) :
    Next l (exec RowBus.next l.bus).1 (exec RowBus.next l.bus).2 := by
  have hexec : exec RowBus.next l.bus =
      exec (RowBus.nextWithin (l.bus.undelivered + 1)) l.bus := by
    simp only [RowBus.next, exec_bind, exec_get]
  have hcount : l.bus.pending.length ≤ l.bus.undelivered := by
    rw [RowBus.pending, Database.unread, ← List.filter_filter]
    exact (List.filter_sublist.filter _).length_le
  rw [hexec]
  refine h.exec_nextWithin _ ?_
  omega

end Next

end Ledger

end ScriptedChat
