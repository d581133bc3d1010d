import ScriptedChat.Binary64
import ScriptedChat.Json.Basic

/-!
Numbers in JSON. A whole number of 64 bits is exact. Any other number is read through a
significand of 64 bits, behind which further digits only count as zeros, and through one
multiplication or division by a rounded power of ten. So it can be a little off the nearest
binary64 number, and near the greatest one this decides whether a number is spoiled.
-/
namespace ScriptedChat.Json

def byte (c : Char) : UInt8 := UInt8.ofNat c.toNat

def isDigit (b : UInt8) : Bool := 48 ≤ b && b ≤ 57

def digitValue (b : UInt8) : Nat := b.toNat - 48

/-- The number that digits denote. -/
def digitsValue (digits : List UInt8) : Nat :=
  digits.foldl (fun n b => n * 10 + digitValue b) 0

/-- The digits of a number as far as they are kept, and the power of ten that scales them. -/
structure Significand where
  digits : Nat := 0
  exponent : Int := 0

namespace Significand

/-- The kept digits with one more behind them, if 64 bits can hold them. -/
def extend? (s : Significand) (b : UInt8) : Option Nat :=
  let digits := s.digits * 10 + digitValue b
  if digits < UInt64.size then some digits else none

/-- Takes in a digit in front of the point. From the first that does not fit they only scale. -/
def addWhole (s : Significand) (b : UInt8) : Significand :=
  match if s.exponent = 0 then s.extend? b else none with
  | some digits => { s with digits }
  | none => { s with exponent := s.exponent + 1 }

/-- Takes in the digits behind the point, up to the first that does not fit. -/
def addPlaces (s : Significand) : List UInt8 → Significand
  | [] => s
  | b :: rest =>
    match s.extend? b with
    | some digits => addPlaces ⟨digits, s.exponent - 1⟩ rest
    | none => s

/-- A number times a power of ten, which is taken in steps of 308 at the most. -/
def scale? (x : Binary64) (exponent : Int) : Option Binary64 :=
  if x.units = 0 then some x
  else if 308 < exponent then none
  else if 0 ≤ exponent then do x.mul? (← Binary64.ofNat? (Nat.pow 10 exponent.toNat))
  else if -308 ≤ exponent then do x.div? (← Binary64.ofNat? (Nat.pow 10 (-exponent).toNat))
  else do scale? (← x.div? (← Binary64.ofNat? (Nat.pow 10 308))) (exponent + 308)
termination_by (-exponent).toNat

/-- The number that is read, unless it is too great. -/
def magnitude? (s : Significand) : Option Binary64 := do
  scale? (← Binary64.ofNat? s.digits) s.exponent

/-- A number that is not exact, spoiled when it is too great. -/
def toDecimal (negative : Bool) (s : Significand) : Json :=
  match s.magnitude? with
  | some x => .decimal negative x
  | none => .spoiled

/-- A number without fraction and exponent. -/
def toWhole (negative : Bool) (s : Significand) : Json :=
  if s.exponent = 0 && !negative then .integer s.digits
  else if s.exponent = 0 && 0 < s.digits && s.digits ≤ UInt64.size / 2 then
    .integer (-(s.digits : Int))
  else s.toDecimal negative

end Significand

/-- The exponent of a number: its value, if there is one, and what follows. -/
def readExponent : List UInt8 → Option (Option Int × List UInt8)
  | [] => some (none, [])
  | b :: rest =>
    if b == byte 'e' || b == byte 'E' then
      let (negative, rest) := match rest with
        | 43 :: rest => (false, rest)
        | 45 :: rest => (true, rest)
        | rest => (false, rest)
      let digits := rest.takeWhile isDigit
      let value : Int := digitsValue digits
      if digits.isEmpty then none
      else some (some (if negative then -value else value), rest.dropWhile isDigit)
    else some (none, b :: rest)

/-- The fraction of a number: its digits, if there are any, and what follows. -/
def readFraction : List UInt8 → Option (Option (List UInt8) × List UInt8)
  | 46 :: rest =>
    let digits := rest.takeWhile isDigit
    if digits.isEmpty then none else some (some digits, rest.dropWhile isDigit)
  | rest => some (none, rest)

/-- A number behind its sign, and what follows. -/
def readNumber? (negative : Bool) (input : List UInt8) : Option (Json × List UInt8) := do
  let digits := input.takeWhile isDigit
  if digits.isEmpty || (digits.head? == some 48 && digits.length > 1) then none
  let (fraction, rest) ← readFraction (input.dropWhile isDigit)
  let (exponent, rest) ← readExponent rest
  let whole : Significand := digits.foldl Significand.addWhole {}
  match fraction, exponent with
  | none, none => return (whole.toWhole negative, rest)
  | fraction, exponent =>
    let s := whole.addPlaces (fraction.getD [])
    return ({ s with exponent := s.exponent + exponent.getD 0 }.toDecimal negative, rest)

end ScriptedChat.Json
