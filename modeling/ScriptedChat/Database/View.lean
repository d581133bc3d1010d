import ScriptedChat.Database.Basic

/-!
The tables of the database in JSON, each in the order of its keys.
-/
namespace ScriptedChat

def Address.toJson (a : Address) : List Json := [.string a.bot.toText, .integer a.user.toInt]

def BotRow.toJson (r : BotRow) : Json :=
  .object [("id", .string r.id.toText), ("owner_id", .integer r.owner.toInt),
    ("name", .string r.name), ("token", .string r.token), ("status", .string r.status),
    ("script", r.script), ("created_at", .string r.createdAt.toText),
    ("updated_at", .string r.updatedAt.toText)]

def ParticipantRow.toJson (r : ParticipantRow) : Json :=
  .array (r.address.toJson ++ [.integer r.state])

def AnswerRow.toJson (r : AnswerRow) : Json :=
  .array (r.key.address.toJson ++ [.integer r.key.state, .string r.text])

def BusRow.toJson (r : BusRow) : Json :=
  .object [("id", .integer r.id), ("topic", .string r.topic),
    ("destination", .string r.destination), ("payload", r.payload),
    ("delivered", .bool r.delivered)]

/-- The tables under their names. -/
def Database.tables (db : Database) : List (String × Json) :=
  [("bots", .list BotRow.toJson db.bots.rows),
    ("participants", .list ParticipantRow.toJson db.participants.rows),
    ("answers", .list AnswerRow.toJson db.answers.rows),
    ("bus_messages", .list BusRow.toJson db.messages.rows)]

end ScriptedChat
