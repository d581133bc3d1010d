/-!
Blank characters are those with the Unicode property White_Space. A text of blanks alone
counts as empty where a name or a credential is asked for.
-/
namespace ScriptedChat.Text

def isBlankChar (c : Char) : Bool :=
  let n := c.toNat
  (9 ≤ n && n ≤ 13) || n == 0x20 || n == 0x85 || n == 0xA0 || n == 0x1680 ||
    (0x2000 ≤ n && n ≤ 0x200A) || n == 0x2028 || n == 0x2029 || n == 0x202F ||
    n == 0x205F || n == 0x3000

/-- Whether a text holds no character but blanks. -/
def isBlank (s : String) : Bool := s.toList.all isBlankChar

/-- The text without the blanks at its two ends. -/
def trim (s : String) : String :=
  String.ofList
    (((s.toList.dropWhile isBlankChar).reverse.dropWhile isBlankChar).reverse)

end ScriptedChat.Text
