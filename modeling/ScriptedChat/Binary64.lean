/-!
Binary64 numbers from zero up, without the infinity. All of them are multiples of two to the
power -1074, so a number is kept as how many of these units it has. Arithmetic is exact up to
one rounding to the nearest number, where a tie goes to the even one, and it has no result
beyond the greatest number. A number is written with the fewest digits that round to it.
-/
namespace ScriptedChat

/-- The number of units in one. -/
def Binary64.one : Nat := Nat.pow 2 1074

/-- The least number of units that is too great. -/
def Binary64.limit : Nat := Nat.pow 2 2098

structure Binary64 where
  units : Nat
  units_lt : units < Binary64.limit
  deriving DecidableEq

namespace Binary64

/-- A quotient rounded to the nearest natural number, a half to the even one. -/
def roundDiv (num den : Nat) : Nat :=
  let whole := num / den
  let rest := 2 * (num % den)
  if rest < den then whole
  else if den < rest then whole + 1
  else whole + whole % 2

/-- The nearest number to a quotient. Numbers have at most 53 binary digits in front of the zeros
that end them. -/
def ofRatio? (num den : Nat) : Option Binary64 :=
  let step := Nat.pow 2 ((num * one / den).log2 - 52)
  let units := roundDiv (num * one) (den * step) * step
  if h : units < limit then some ⟨units, h⟩ else none

def ofNat? (n : Nat) : Option Binary64 := ofRatio? n 1

def mul? (x y : Binary64) : Option Binary64 := ofRatio? (x.units * y.units) (one * one)

def div? (x y : Binary64) : Option Binary64 := ofRatio? x.units y.units

/-- The number that decimal digits and a power of ten round to. -/
def ofDecimal? (digits : Nat) (exponent : Int) : Option Binary64 :=
  ofRatio? (digits * Nat.pow 10 exponent.toNat) (Nat.pow 10 (-exponent).toNat)

/-- The multiple of a power of ten that rounds to a number, if there is one; the nearest of
several. -/
def multiple? (x : Binary64) (exponent : Int) : Option Nat :=
  let num := x.units * Nat.pow 10 (-exponent).toNat
  let den := one * Nat.pow 10 exponent.toNat
  [roundDiv num den, num / den, num / den + 1].find? fun digits =>
    ofDecimal? digits exponent = some x

/-- The greatest power of ten with a multiple that rounds to a number, behind the digits of that
multiple. No power above 308 and none below -324 comes into question; the digits behind them
would be the exact ones. -/
def shortest (x : Binary64) : Nat × Int :=
  let powers := (List.range 633).map fun i => 308 - Int.ofNat i
  (powers.findSome? fun e => (x.multiple? e).map (·, e)).getD (x.units * Nat.pow 5 1074, -1074)

end Binary64

end ScriptedChat
