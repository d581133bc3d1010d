import ScriptedChat.AnswersTable
import ScriptedChat.Bot
import ScriptedChat.Conversation
import ScriptedChat.Script.Document

/-!
The JSON in which the engine shows bots, participants and outcomes. The view of a bot leaves
out its owner and its credential; the record of a bot holds every field.
-/
namespace ScriptedChat

namespace Answer

def shape : Shape Answer :=
  ((Shape.field "user_id" Decoder.int64).both
    ((Shape.field "state" Decoder.uint32).both (.field "text" Decoder.text))).map
    fun (user, state, text) => ⟨user, state, text⟩

def decode : Decoder Answer := shape.decode

def toJson (a : Answer) : Json :=
  .object [("user_id", .integer a.user.toInt), ("state", .nat a.state.toNat),
    ("text", .string a.text)]

end Answer

def Message.toJson (m : Message) : Json :=
  .object [("text", .string m.text), ("buttons", .list .string m.buttons)]

def Transition.toJson (t : Transition) : Json :=
  .object [("messages", .list Message.toJson t.messages),
    ("answer", .option Answer.toJson t.answer)]

def AnswersTable.toJson (t : AnswersTable) : Json :=
  .object [("head", .list .string t.head), ("body", .list (.list .string) t.body)]

namespace Bot

/-- The script and the mailings as one document. -/
def document (bot : Bot) : ScriptDocument :=
  ⟨bot.script.entries.rows, bot.script.blocks.rows, bot.mailings⟩

def times (bot : Bot) : List (String × Json) :=
  [("created_at", .string bot.createdAt.toText), ("updated_at", .string bot.updatedAt.toText)]

def view (bot : Bot) : Json :=
  .object ([("bot_id", .string bot.id.toText), ("name", .string bot.name),
    ("status", .string bot.status.name)] ++ bot.document.members ++ bot.times)

def record (bot : Bot) : Json :=
  .object ([("bot_id", .string bot.id.toText), ("owner_id", .integer bot.owner.toInt),
    ("name", .string bot.name), ("token", .string bot.token),
    ("status", .string bot.status.name)] ++ bot.document.members ++ bot.times)

end Bot

namespace Participant

def progress (p : Participant) : List (String × Json) :=
  [("user_id", .integer p.address.user.toInt), ("current_state", .nat p.state.toNat),
    ("answers", .list Answer.toJson p.answers.rows)]

def view (p : Participant) : Json :=
  .object (("bot_id", .string p.address.bot.toText) :: p.progress)

end Participant

end ScriptedChat
