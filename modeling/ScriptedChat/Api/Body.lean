import ScriptedChat.Api.MediaType
import ScriptedChat.Json.Reader
import ScriptedChat.Script.Document

/-!
The bodies of requests. A body has to be declared as JSON and must not be too long, then it has
to be JSON, and its fields have to be of the right kind; what is found first in the text
decides which of the last two is reported.
-/
namespace ScriptedChat.Api

/-- Why a body is turned down before it reaches the engine. -/
inductive Rejection
  | mediaType
  | tooLong
  | malformed
  | mismatch
  deriving DecidableEq

def Rejection.status : Rejection → Nat
  | .mediaType => 415
  | .tooLong => 413
  | .malformed => 400
  | .mismatch => 422

def Rejection.ofFault : DecodeFault → Rejection
  | .malformed => .malformed
  | .mismatch => .mismatch

/-- Whether a header can be read as text. One that cannot counts as missing. -/
def isHeaderText (s : String) : Bool :=
  s.toList.all fun c => c == '\t' || (32 ≤ c.toNat && c.toNat ≤ 126)

/-- The greatest length of a body in bytes. -/
def longestBody : Nat := 2 * 1024 * 1024

/-- Reads a body as a value of some kind. -/
def readBody {α : Type} (decode : Decoder α) (contentType : Option String)
    (body : List UInt8) : Except Rejection α := do
  match (contentType.filter isHeaderText).bind MediaType.ofText? with
  | none => throw .mediaType
  | some type =>
    if !type.isJson then throw .mediaType
    if longestBody < body.length then throw .tooLong
    let (document, rest) := Json.read body
    let value ← (decode document).mapError Rejection.ofFault
    if Json.atEnd rest then return value else throw .malformed

/-- A script that is submitted. -/
structure ScriptBody where
  entries : List EntryPoint
  blocks : List Block
  deriving DecidableEq

def ScriptBody.shape : Shape ScriptBody :=
  ((Shape.field "entry_points" (.list EntryPoint.decode)).both
    (.field "blocks" (.list Block.decode))).map fun (entries, blocks) => ⟨entries, blocks⟩

/-- A bot that is submitted, perhaps with an identifier. -/
structure BotBody where
  id : Option Uuid
  name : String
  token : String
  script : ScriptBody
  deriving DecidableEq

def BotBody.shape : Shape BotBody :=
  ((Shape.field "bot_id" (.nullable Decoder.uuid) (some none)).both
    ((Shape.field "name" Decoder.text).both
      ((Shape.field "token" Decoder.text).both ScriptBody.shape))).map
    fun (id, name, token, script) => ⟨id, name, token, script⟩

def keyShape : Shape String := .field "key" Decoder.text

def textShape : Shape String := .field "text" Decoder.text

end ScriptedChat.Api
