import ScriptedChat.Text.Unprinted

/-!
Names inside messages stand between double quotes. A quote, a backslash and the common
controls are escaped with a backslash, and a character without a printed form is written as
its code point in lower-case hexadecimal.
-/
namespace ScriptedChat.Text

/-- The digits of a number in hexadecimal, lower case, without leading zeros. -/
def hex (n : Nat) : String := String.ofList (Nat.toDigits 16 n)

/-- One character of quoted text. -/
def quoteChar (c : Char) : String :=
  match c with
  | '\x00' => "\\0"
  | '\t' => "\\t"
  | '\n' => "\\n"
  | '\r' => "\\r"
  | '"' => "\\\""
  | '\\' => "\\\\"
  | c => if isUnprinted c then "\\u\x7b" ++ hex c.toNat ++ "\x7d" else c.toString

/-- A name between double quotes. -/
def quoted (s : String) : String :=
  "\"" ++ String.join (s.toList.map quoteChar) ++ "\""

end ScriptedChat.Text
