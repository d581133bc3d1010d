import ScriptedChat.Api.Body
import ScriptedChat.Api.Route
import ScriptedChat.Engine.Basic
import ScriptedChat.View

/-!
The HTTP API over the engine. A request is turned down in a fixed order: an unknown path, an
unknown method, a bad owner header where one is needed, bad parameters in the path, a bad body.
Errors of the engine are answered with a status of their own and a body that names them.
-/
namespace ScriptedChat.Api

structure Request where
  method : String
  target : String
  owner : Option String
  contentType : Option String
  body : List UInt8

inductive ResponseBody
  | empty
  | json (document : Json)
  /-- A sentence about a request that did not reach the engine. -/
  | remark

structure Response where
  status : Nat
  body : ResponseBody

/-- The status and the name of an error. -/
def errorCode : Error → Nat × String
  | .invalidInput _ => (400, "invalid_input")
  | .blockNotFound _ => (422, "block_not_found")
  | .blockDuplicated _ => (422, "block_duplicated")
  | .entryDuplicated _ => (422, "entry_duplicated")
  | .unusedBlock _ => (422, "unused_block")
  | .cycleDetected _ => (422, "cycle_detected")
  | .runawayScript _ => (422, "runaway_script")
  | .entryNotFound _ => (404, "entry_not_found")
  | .mailingNotFound _ => (404, "mailing_not_found")
  | .botNotFound _ => (404, "bot_not_found")
  | .participantNotFound _ => (404, "participant_not_found")
  | .mailingDuplicated _ => (409, "mailing_duplicated")
  | .botAlreadyExists _ => (409, "bot_already_exists")
  | .permissionDenied _ => (403, "permission_denied")
  | .infrastructure _ => (500, "infrastructure_error")
  | .publish _ => (503, "publish_error")

/-- The text of an error, unless it only says how a document is malformed. -/
def errorText : Error → List (String × Json)
  | .infrastructure .malformedScript => []
  | e => [("message", .string e.message)]

def errorBody (e : Error) : Json := .object (("error", .string (errorCode e).2) :: errorText e)

def ofError (e : Error) : Response := ⟨(errorCode e).1, .json (errorBody e)⟩

/-- The answer to a request that was turned down. -/
def turnedDown (status : Nat) : Response := ⟨status, .remark⟩

/-- The operator that a request names. -/
def readOwner (header : Option String) : Except Error UserId :=
  match header.filter isHeaderText with
  | none => .error (.invalidInput .missingOwner)
  | some text =>
    (Text.readInt64 (Text.trim text)).mapError fun _ => .invalidInput (.ownerNotInteger text)

/-- A step of answering a request, which may end with a response at once. -/
abbrev Handling (σ α : Type) := ExceptT Response (StateM σ) α

section

variable {σ : Type}

/-- What the engine does. -/
def carryOut {α : Type} (m : Action σ α) : Handling σ α := ExceptT.adapt ofError m

def owner (r : Request) : Handling σ UserId :=
  match readOwner r.owner with
  | .ok owner => return owner
  | .error e => throw (ofError e)

def parameter {α : Type} (value : Option α) : Handling σ α :=
  match value with
  | some a => return a
  | none => throw (turnedDown 400)

def body {α : Type} (decode : Decoder α) (r : Request) : Handling σ α :=
  match readBody decode r.contentType r.body with
  | .ok a => return a
  | .error rejection => throw (turnedDown rejection.status)

def answer (status : Nat) (document : Json) : Response := ⟨status, .json document⟩

def health : Json :=
  .object [("status", .string "ok"), ("service", .string "scriptbot-api"),
    ("version", .string "0.1.0")]

/-- The answer to a change of a session. -/
def statusDocument (bot : Uuid) (status : BotStatus) : Json :=
  .object [("bot_id", .string bot.toText), ("status", .string status.name)]

/-- The participant that a path names. -/
def address (id user : String) : Handling σ Address := do
  return ⟨← parameter (botOfSegment? id), ← parameter (userOfSegment? user)⟩

/-- Answers a request for a route by a method that the route has. A bot without an identifier
of its own gets `newId`. -/
def serve (e : Engine σ) (setting : Setting) (newId : Uuid) (r : Request) (method : String) :
    Route → Handling σ Response
  | .health => return answer 200 health
  | .bots => do
    let owner ← owner r
    if method = "POST" then
      let b ← body BotBody.shape.decode r
      let bot ← carryOut (e.createBot setting
        ⟨b.id.getD newId, owner, b.name, b.token, b.script.entries, b.script.blocks⟩)
      return answer 201 bot.view
    else
      return answer 200 (.list Bot.view (← carryOut (e.stores.botsOfOwner owner)))
  | .bot id => do
    let owner ← owner r
    let bot ← parameter (botOfSegment? id)
    if method = "DELETE" then
      carryOut (e.deleteBot bot owner)
      return ⟨204, .empty⟩
    else
      return answer 200 (← carryOut (e.ownedBot bot owner)).view
  | .script id => do
    let owner ← owner r
    let bot ← parameter (botOfSegment? id)
    let b ← body ScriptBody.shape.decode r
    return answer 200 (← carryOut (e.setScript setting bot owner b.entries b.blocks)).view
  | .mailings id => do
    let owner ← owner r
    let bot ← parameter (botOfSegment? id)
    let mailing ← body Mailing.decode r
    return answer 201 (← carryOut (e.addMailing setting bot owner mailing)).view
  | .sendMailing id name => do
    let owner ← owner r
    let bot ← parameter (botOfSegment? id)
    let name ← parameter (Text.percentDecode? name)
    let reached ← carryOut (e.sendMailing bot owner name)
    return answer 200 (.object [("reached", .nat reached)])
  | .start id => do
    let owner ← owner r
    let bot ← parameter (botOfSegment? id)
    carryOut (e.startBot setting bot owner)
    return answer 200 (statusDocument bot .started)
  | .stop id => do
    let owner ← owner r
    let bot ← parameter (botOfSegment? id)
    carryOut (e.stopBot setting bot owner)
    return answer 200 (statusDocument bot .stopped)
  | .answers id => do
    let owner ← owner r
    let bot ← parameter (botOfSegment? id)
    return answer 200 (← carryOut (e.answers bot owner)).toJson
  | .participant id user => do
    let owner ← owner r
    let address ← address id user
    return answer 200 (← carryOut (e.participant address owner)).view
  | .entry id user => do
    let address ← address id user
    let key ← body keyShape.decode r
    let messages ← carryOut (e.enter address key)
    return answer 200 (.object [("messages", .list Message.toJson messages)])
  | .process id user => do
    let address ← address id user
    let text ← body textShape.decode r
    return answer 200 (← carryOut (e.process address text)).toJson

/-- Answers a request. A HEAD is a GET whose answer has no body. -/
def respond (e : Engine σ) (setting : Setting) (newId : Uuid) (r : Request) :
    StateM σ Response := do
  match Route.ofPath? (Route.pathOf r.target) with
  | none => return ⟨404, .empty⟩
  | some route =>
    let method := if r.method = "HEAD" then "GET" else r.method
    if !route.methods.contains method then return ⟨405, .empty⟩
    let response ←
      match ← (serve e setting newId r method route).run with
      | .ok response => pure response
      | .error response => pure response
    return if r.method = "HEAD" then { response with body := .empty } else response

end

end ScriptedChat.Api
