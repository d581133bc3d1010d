import ScriptedChat.Error
import ScriptedChat.Json.Shape

/-!
What travels over the bus: messages for end users and commands for the channel session of a
bot. An envelope has a topic, a payload in JSON and a destination. Envelopes of one
destination have to stay in order.
-/
namespace ScriptedChat

/-- A message that a bot sends to a user. -/
structure OutboundMessage where
  bot : String
  user : UserId
  text : String
  buttons : List String
  deriving DecidableEq

inductive SessionCommand
  | start
  | stop
  deriving DecidableEq

/-- Opens or closes the channel session of a bot. -/
structure LifecycleCommand where
  bot : String
  command : SessionCommand
  /-- The credential of the channel, which a start carries. -/
  token : Option String
  deriving DecidableEq

inductive Topic
  | messages
  | runners
  deriving DecidableEq

inductive Envelope
  | message (m : OutboundMessage)
  | lifecycle (c : LifecycleCommand)
  deriving DecidableEq

namespace Topic

def name : Topic → String
  | .messages => "messages"
  | .runners => "runners"

def ofName (name : String) : Except BusError Topic :=
  if name = "messages" then .ok .messages
  else if name = "runners" then .ok .runners
  else .error (.unknownTopic name)

end Topic

namespace SessionCommand

def name : SessionCommand → String
  | .start => "start"
  | .stop => "stop"

def ofName (name : String) : Except DecodeFault SessionCommand :=
  if name = "start" then .ok .start
  else if name = "stop" then .ok .stop
  else .error .mismatch

/-- A command by its name, or as an object with null under its name. -/
def decode : Decoder SessionCommand
  | .string s => ofName s
  | .object [(key, .null)] => ofName key
  | j => .error j.fault

end SessionCommand

namespace OutboundMessage

def make (bot : Uuid) (user : UserId) (text : String) (buttons : List String) :
    OutboundMessage := ⟨bot.toText, user, text, buttons⟩

def shape : Shape OutboundMessage :=
  ((Shape.field "bot_uuid" Decoder.text).both
    ((Shape.field "user_id" Decoder.int64).both
      ((Shape.field "text" Decoder.text).both
        (.field "buttons" (.list Decoder.text) (some []))))).map
    fun (bot, user, text, buttons) => ⟨bot, user, text, buttons⟩

def decode : Decoder OutboundMessage := shape.decode

def toJson (m : OutboundMessage) : Json :=
  .object [("bot_uuid", .string m.bot), ("user_id", .integer m.user.toInt),
    ("text", .string m.text), ("buttons", .list .string m.buttons)]

end OutboundMessage

namespace LifecycleCommand

def start (bot : Uuid) (token : String) : LifecycleCommand := ⟨bot.toText, .start, some token⟩

def stop (bot : Uuid) : LifecycleCommand := ⟨bot.toText, .stop, none⟩

def shape : Shape LifecycleCommand :=
  ((Shape.field "bot_uuid" Decoder.text).both
    ((Shape.field "command" SessionCommand.decode).both
      (.field "token" (.nullable Decoder.text) (some none)))).map
    fun (bot, command, token) => ⟨bot, command, token⟩

def decode : Decoder LifecycleCommand := shape.decode

def toJson (c : LifecycleCommand) : Json :=
  .object ([("bot_uuid", .string c.bot), ("command", .string c.command.name)] ++
    match c.token with
    | some token => [("token", .string token)]
    | none => [])

end LifecycleCommand

namespace Envelope

def topic : Envelope → Topic
  | .message _ => .messages
  | .lifecycle _ => .runners

/-- The bot that an envelope belongs to. -/
def bot : Envelope → String
  | .message m => m.bot
  | .lifecycle c => c.bot

/-- Messages are ordered for each bot and user, commands for each bot. -/
def destination : Envelope → String
  | .message m => m.bot ++ ":" ++ toString m.user
  | .lifecycle c => c.bot

def payload : Envelope → Json
  | .message m => m.toJson
  | .lifecycle c => c.toJson

/-- The envelope of a topic and a payload. -/
def ofParts (topic : String) (payload : Json) : Except BusError Envelope := do
  match ← Topic.ofName topic with
  | .messages =>
    match OutboundMessage.decode payload with
    | .ok m => return .message m
    | .error _ => throw .serialization
  | .runners =>
    match LifecycleCommand.decode payload with
    | .ok c => return .lifecycle c
    | .error _ => throw .serialization

def toJson (e : Envelope) : Json :=
  .object [("topic", .string e.topic.name), ("destination", .string e.destination),
    ("payload", e.payload)]

end Envelope

end ScriptedChat
