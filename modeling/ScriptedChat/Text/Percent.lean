/-!
Percent-encoded text. A percent sign with two hexadecimal digits after it stands for one byte,
every other character for itself, and the bytes together have to be UTF-8. A percent sign
without two digits after it stands for itself.
-/
namespace ScriptedChat.Text

def hexValue? (c : Char) : Option Nat :=
  if '0' ≤ c ∧ c ≤ '9' then some (c.toNat - '0'.toNat)
  else if 'a' ≤ c ∧ c ≤ 'f' then some (c.toNat - 'a'.toNat + 10)
  else if 'A' ≤ c ∧ c ≤ 'F' then some (c.toNat - 'A'.toNat + 10)
  else none

/-- The bytes of a text that is nothing but pairs of hexadecimal digits. -/
def bytesOfHex? : List Char → Option (List UInt8)
  | [] => some []
  | [_] => none
  | a :: b :: rest => do
    let byte := 16 * (← hexValue? a) + (← hexValue? b)
    return UInt8.ofNat byte :: (← bytesOfHex? rest)

/-- The bytes that percent-encoded characters stand for. -/
def percentBytes : List Char → List UInt8
  | [] => []
  | '%' :: a :: b :: rest =>
    match hexValue? a, hexValue? b with
    | some x, some y => UInt8.ofNat (16 * x + y) :: percentBytes rest
    | _, _ => '%'.toNat.toUInt8 :: percentBytes (a :: b :: rest)
  | c :: rest => c.toString.toUTF8.toList ++ percentBytes rest

/-- The decoded text, if its bytes are UTF-8. -/
def percentDecode? (s : String) : Option String :=
  String.fromUTF8? (percentBytes s.toList).toByteArray

end ScriptedChat.Text
