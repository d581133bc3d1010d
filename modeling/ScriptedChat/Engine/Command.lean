import ScriptedChat.Bot
import ScriptedChat.Conversation
import ScriptedChat.AnswersTable

/-!
What operators and end users ask of the engine, and the replies.
-/
namespace ScriptedChat

inductive Command
  | createBot (draft : BotDraft)
  | setScript (bot : Uuid) (owner : UserId) (entries : List EntryPoint) (blocks : List Block)
  | addMailing (bot : Uuid) (owner : UserId) (mailing : Mailing)
  | sendMailing (bot : Uuid) (owner : UserId) (name : String)
  | startBot (bot : Uuid) (owner : UserId)
  | stopBot (bot : Uuid) (owner : UserId)
  | deleteBot (bot : Uuid) (owner : UserId)
  | enter (address : Address) (key : String)
  | process (address : Address) (input : String)
  /-- Asks the channel sessions of all started bots to run again. -/
  | resume

/-- The reply to a command that was carried out. -/
inductive Reply
  | done
  | bot (bot : Bot)
  /-- How many bots or participants the command reached. -/
  | count (n : Nat)
  | messages (messages : List Message)
  | transition (transition : Transition)
  deriving DecidableEq

inductive Query
  | bot (bot : Uuid) (owner : UserId)
  | bots (owner : UserId)
  | answers (bot : Uuid) (owner : UserId)
  | participant (address : Address) (owner : UserId)

inductive QueryReply
  | bot (bot : Bot)
  | bots (bots : List Bot)
  | answers (table : AnswersTable)
  | participant (participant : Participant)
  deriving DecidableEq

/-- The sorts of commands that address one bot. -/
inductive CommandSort
  | createBot
  | setScript
  | addMailing
  | sendMailing
  | startBot
  | stopBot
  | deleteBot
  | enter
  | process
  deriving DecidableEq

/-- The name under which a sort of commands is announced. -/
def CommandSort.name : CommandSort → String
  | .createBot => "script.create_bot"
  | .setScript => "script.set_script"
  | .addMailing => "script.add_mailing"
  | .sendMailing => "script.send_mailing"
  | .startBot => "script.start_bot"
  | .stopBot => "script.stop_bot"
  | .deleteBot => "script.delete_bot"
  | .enter => "script.enter"
  | .process => "script.process"

/-- A sort of commands by its title. -/
def CommandSort.ofTitle? : String → Option CommandSort
  | "CreateBot" => some .createBot
  | "SetScript" => some .setScript
  | "AddMailing" => some .addMailing
  | "SendMailing" => some .sendMailing
  | "StartBot" => some .startBot
  | "StopBot" => some .stopBot
  | "DeleteBot" => some .deleteBot
  | "EnterScript" => some .enter
  | "ProcessInput" => some .process
  | _ => none

end ScriptedChat
