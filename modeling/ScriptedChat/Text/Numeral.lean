/-!
Decimal numerals of bounded integers. A sign may stand in front, a minus only where negative
numbers are allowed, and everything after it is a digit. Reading goes from left to right and
stops at the first fault, so a numeral that leaves the range before a stray character is too
large and not malformed.
-/
namespace ScriptedChat.Text

/-- Why a text is no numeral of the asked range. -/
inductive NumeralFault
  | empty
  | strayCharacter
  | tooLarge
  | tooSmall
  deriving DecidableEq, Repr

def NumeralFault.message : NumeralFault → String
  | .empty => "cannot parse integer from empty string"
  | .strayCharacter => "invalid digit found in string"
  | .tooLarge => "number too large to fit in target type"
  | .tooSmall => "number too small to fit in target type"

def digitValue? (c : Char) : Option Nat :=
  if '0' ≤ c ∧ c ≤ '9' then some (c.toNat - '0'.toNat) else none

/-- Reads digits onto a value that must stay at most `limit`. -/
def readDigits (limit : Nat) (beyond : NumeralFault) :
    Nat → List Char → Except NumeralFault Nat
  | value, [] => .ok value
  | value, c :: rest =>
    match digitValue? c with
    | none => .error .strayCharacter
    | some d =>
      if value * 10 + d ≤ limit then readDigits limit beyond (value * 10 + d) rest
      else .error beyond

/-- A natural number of at most `limit`. -/
def readNat (limit : Nat) (s : String) : Except NumeralFault Nat :=
  match s.toList with
  | [] => .error .empty
  | ['+'] => .error .strayCharacter
  | '+' :: digits => readDigits limit .tooLarge 0 digits
  | digits => readDigits limit .tooLarge 0 digits

/-- An integer of 64 bits. -/
def readInt64 (s : String) : Except NumeralFault Int64 :=
  match s.toList with
  | [] => .error .empty
  | ['+'] | ['-'] => .error .strayCharacter
  | '-' :: digits =>
    (readDigits (UInt64.size / 2) .tooSmall 0 digits).map fun n => Int64.ofInt (-(n : Int))
  | '+' :: digits =>
    (readDigits (UInt64.size / 2 - 1) .tooLarge 0 digits).map fun n => Int64.ofNat n
  | digits => (readDigits (UInt64.size / 2 - 1) .tooLarge 0 digits).map fun n => Int64.ofNat n

end ScriptedChat.Text
