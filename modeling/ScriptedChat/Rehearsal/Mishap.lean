import ScriptedChat.Error
import ScriptedChat.Json.Shape

/-!
Errors that a rehearsal raises on purpose. Each is named by its kind and has its arguments in
JSON; arguments that are not needed are passed over.
-/
namespace ScriptedChat.Error

/-- An error from its first argument. -/
def ofFirst {α : Type} (argument : Decoder α) (error : α → Error) (arguments : List Json) :
    Except DecodeFault Error :=
  (argument (arguments.headD .null)).map error

def participantMissing (arguments : List Json) : Except DecodeFault Error := do
  let bot ← Decoder.uuid (arguments.headD .null)
  let user ← Decoder.int64 ((arguments.drop 1).headD .null)
  return .participantNotFound ⟨bot, user⟩

/-- The error of a kind, if there is such a kind. -/
def ofKind? (kind : String) (arguments : List Json) : Option (Except DecodeFault Error) :=
  let state (error : State → Error) := some (ofFirst Decoder.uint32 error arguments)
  let text (error : String → Error) := some (ofFirst Decoder.text error arguments)
  let bot (error : Uuid → Error) := some (ofFirst Decoder.uuid error arguments)
  match kind with
  | "InvalidInput" => text fun s => .invalidInput (.other s)
  | "BlockNotFound" => state .blockNotFound
  | "BlockDuplicated" => state .blockDuplicated
  | "EntryDuplicated" => text .entryDuplicated
  | "UnusedBlock" => state .unusedBlock
  | "CycleDetected" => state .cycleDetected
  | "EntryNotFound" => text .entryNotFound
  | "MailingNotFound" => text .mailingNotFound
  | "MailingDuplicated" => text .mailingDuplicated
  | "RunawayScript" => state .runawayScript
  | "BotNotFound" => bot .botNotFound
  | "BotAlreadyExists" => bot .botAlreadyExists
  | "PermissionDenied" => bot .permissionDenied
  | "ParticipantNotFound" => some (participantMissing arguments)
  | "Infrastructure" => text fun s => .infrastructure (.other s)
  | "Publish" => text .publish
  | _ => none

end ScriptedChat.Error
