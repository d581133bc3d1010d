import ScriptedChat.Identity
import ScriptedChat.Text.Numeral

/-!
The addresses of the API. A path is split at its slashes before anything is decoded, and a
trailing slash makes another path. A parameter is one segment; it may be empty only where
another segment follows.
-/
namespace ScriptedChat.Api

/-- Paths, with the parameters as they stand in the address. -/
inductive Route
  | health
  | bots
  | bot (id : String)
  | script (id : String)
  | mailings (id : String)
  | sendMailing (id name : String)
  | start (id : String)
  | stop (id : String)
  | answers (id : String)
  | participant (id user : String)
  | entry (id user : String)
  | process (id user : String)
  deriving DecidableEq

namespace Route

/-- Characters in front of the colon of a full address. -/
def isSchemeChar (c : Char) : Bool := c.isAlphanum || c == '+' || c == '-' || c == '.'

/-- What follows the host of a full address, a single slash when there is nothing. An address
that neither is full nor starts with a slash has no path. -/
def behindHost (target : List Char) : List Char :=
  match target.dropWhile isSchemeChar with
  | ':' :: '/' :: '/' :: rest =>
    match rest.dropWhile fun c => c != '/' && c != '?' && c != '#' with
    | '/' :: path => '/' :: path
    | _ => ['/']
  | _ => []

/-- The path of an address, without the host in front of it and the query behind it. -/
def pathOf (target : String) : String :=
  let text := target.toList
  let path := if text.head? = some '/' then text else behindHost text
  String.ofList (path.takeWhile fun c => c != '?' && c != '#')

def ofPath? (path : String) : Option Route :=
  match (path.toList.splitOn '/').map String.ofList with
  | ["", "health"] => some .health
  | ["", "api", "v1", "bots"] => some .bots
  | "" :: "api" :: "v1" :: "bots" :: rest =>
    match rest with
    | [id] => if id = "" then none else some (.bot id)
    | [id, "script"] => some (.script id)
    | [id, "mailings"] => some (.mailings id)
    | [id, "start"] => some (.start id)
    | [id, "stop"] => some (.stop id)
    | [id, "answers"] => some (.answers id)
    | [id, "mailings", name, "send"] => some (.sendMailing id name)
    | [id, "participants", user] => if user = "" then none else some (.participant id user)
    | [id, "participants", user, "entry"] => some (.entry id user)
    | [id, "participants", user, "process"] => some (.process id user)
    | _ => none
  | _ => none

/-- What a route can be asked to do. -/
def methods : Route → List String
  | .health | .answers _ | .participant _ _ => ["GET"]
  | .bots => ["POST", "GET"]
  | .bot _ => ["GET", "DELETE"]
  | .script _ => ["PUT"]
  | .mailings _ | .sendMailing _ _ | .start _ | .stop _ | .entry _ _ | .process _ _ => ["POST"]

end Route

/-- An identifier from a path. -/
def botOfSegment? (segment : String) : Option Uuid :=
  (Text.percentDecode? segment).bind Uuid.ofText?

/-- A user from a path. -/
def userOfSegment? (segment : String) : Option UserId := do
  match Text.readInt64 (← Text.percentDecode? segment) with
  | .ok user => some user
  | .error _ => none

end ScriptedChat.Api
