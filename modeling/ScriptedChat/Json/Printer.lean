import ScriptedChat.Json.Basic

/-!
The text of a JSON document, without spaces. Controls, quotes and backslashes are escaped and
every other character stands for itself.
-/
namespace ScriptedChat.Json

/-- A control as four hexadecimal digits. -/
def unitEscape (n : Nat) : String :=
  "\\u00" ++ String.ofList [Nat.digitChar (n / 16), Nat.digitChar (n % 16)]

def escapeChar (c : Char) : String :=
  if c = '"' then "\\\""
  else if c = '\\' then "\\\\"
  else if c = '\n' then "\\n"
  else if c = '\r' then "\\r"
  else if c = '\t' then "\\t"
  else if c.toNat = 8 then "\\b"
  else if c.toNat = 12 then "\\f"
  else if c.toNat < 32 then unitEscape c.toNat
  else c.toString

def printText (s : String) : String :=
  "\"" ++ String.join (s.toList.map escapeChar) ++ "\""

def printDecimal (negative : Bool) (magnitude : Binary64) : String :=
  let (digits, exponent) := magnitude.shortest
  (if negative then "-" else "") ++ toString digits ++ "e" ++ toString exponent

mutual

def print : Json → String
  | .null | .torn | .unnamed | .spoiled => "null"
  | .bool b => if b then "true" else "false"
  | .integer n => toString n
  | .decimal negative magnitude => printDecimal negative magnitude
  | .string s => printText s
  | .array items => "[" ++ printItems true items ++ "]"
  | .object members => "\x7b" ++ printMembers true members ++ "\x7d"

def printItems (first : Bool) : List Json → String
  | [] => ""
  | j :: rest => (if first then "" else ",") ++ j.print ++ printItems false rest

def printMembers (first : Bool) : List (String × Json) → String
  | [] => ""
  | (k, j) :: rest =>
    (if first then "" else ",") ++ printText k ++ ":" ++ j.print ++ printMembers false rest

end

end ScriptedChat.Json
