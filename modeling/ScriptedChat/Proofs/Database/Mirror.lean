import ScriptedChat.Proofs.Database.Records
import ScriptedChat.Proofs.Engine.World

/-!
When a database holds what stores in memory hold. Under every identifier there is the row of
the bot, and the participants have their rows and those of their answers. What is held can be
written as rows, and every participant has its bot. Each change of the stores has a change of the
tables that keeps this.
-/
namespace ScriptedChat

/-- A database in good order that holds the same as stores in memory. -/
structure Mirrors (m : Memory) (db : Database) : Prop extends Records m.participants db where
  quiet : db.Quiet
  bots : ∀ id, db.bots.get? id = (m.bots.get? id).map BotRow.ofBot
  storable : ∀ bot ∈ m.bots.rows, bot.Storable

namespace Mirrors

variable {m : Memory} {db : Database}

theorem empty : Mirrors {} {} where
  toRecords := Records.empty
  quiet := rfl
  bots _ := rfl
  storable _ h := absurd h List.not_mem_nil

theorem storable_of_get? (h : Mirrors m db) {id : Uuid} {bot : Bot}
    (hbot : m.bots.get? id = some bot) : bot.Storable :=
  h.storable bot (Table.mem_of_get? hbot)

theorem contains_bot (h : Mirrors m db) (id : Uuid) :
    db.bots.contains id = m.bots.contains id := by
  rw [Table.contains, Table.contains, h.bots, Option.isSome_map]

theorem saveBot (h : Mirrors m db) {bot : Bot} (hbot : bot.Storable) :
    Mirrors (m.saveBot bot) { db with bots := db.bots.insert (.ofBot bot) } where
  toRecords := h.toRecords.saveBot (.ofBot bot)
  quiet := h.quiet
  bots := Table.get?_insert_map (fun _ => rfl) h.bots bot
  storable other hother := by
    rcases Table.mem_insert.1 hother with rfl | ⟨hother, _⟩
    · exact hbot
    · exact h.storable other hother

theorem saveParticipant (h : Mirrors m db) {p : Participant} (hp : p.Storable)
    (hbot : db.bots.contains p.address.bot = true) :
    Mirrors (m.saveParticipant p) (db.withParticipant p) where
  toRecords := h.withParticipant hp hbot
  quiet := h.quiet
  bots := h.bots
  storable := h.storable

theorem dropParticipants (h : Mirrors m db) (id : Uuid) :
    Mirrors ⟨m.bots, m.participants.filter fun p => p.address.bot ≠ id⟩
      (db.dropParticipants id) where
  toRecords := h.toRecords.dropParticipants id
  quiet := h.quiet
  bots := h.bots
  storable := h.storable

theorem dropBot (h : Mirrors m db) (id : Uuid) :
    Mirrors (m.dropBot id)
      { db.dropParticipants id with bots := db.bots.erase id } where
  participants := (h.toRecords.dropParticipants id).participants
  answers := (h.toRecords.dropParticipants id).answers
  answered := (h.toRecords.dropParticipants id).answered
  kept p hp := by
    obtain ⟨hp, hne⟩ := Table.mem_filter.1 hp
    have hid : id ≠ p.address.bot := Ne.symm (of_decide_eq_true hne)
    show ((db.bots.erase id).get? p.address.bot).isSome = true
    rw [Table.get?_erase_of_ne _ hid]
    exact h.kept p hp
  quiet := h.quiet
  bots := Table.get?_erase_map h.bots id
  storable bot hbot := h.storable bot (Table.mem_erase.1 hbot).1

end Mirrors

end ScriptedChat
