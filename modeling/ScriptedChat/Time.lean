/-!
Instants in nanoseconds since the start of 1970 in UTC, their RFC 3339 text and the coarser
grain at which the database keeps them.
-/
namespace ScriptedChat

structure Time where
  nanos : Int
  deriving DecidableEq, Inhabited

namespace Time

/-- Order in time. -/
def le (a b : Time) : Bool := a.nanos ≤ b.nanos

/-- 2026-01-15T10:00:00Z, the reading of a clock that was not set. -/
def unset : Time := ⟨1768471200000000000⟩

def nanosPerSecond : Int := 1000000000

/-- The start of 2000, from which the database counts microseconds. -/
def databaseEpoch : Time := ⟨946684800000000000⟩

/-- The instant in whole microseconds; what is below them is cut off towards the start of
2000. -/
def toMicros (t : Time) : Time :=
  ⟨Int.tdiv (t.nanos - databaseEpoch.nanos) 1000 * 1000 + databaseEpoch.nanos⟩

/-- A day of the Gregorian calendar. -/
structure Date where
  year : Int
  month : Nat
  day : Nat

/-- The date of a day counted from the start of 1970. Years are counted from March, so that a
leap day is the last day of its year, in eras of 400 years. -/
def Date.ofDays (days : Int) : Date :=
  let shifted := days + 719468
  let era := shifted.fdiv 146097
  let dayOfEra := (shifted.fmod 146097).toNat
  let yearOfEra := (dayOfEra - dayOfEra / 1460 + dayOfEra / 36524 - dayOfEra / 146096) / 365
  let dayOfYear := dayOfEra - (365 * yearOfEra + yearOfEra / 4 - yearOfEra / 100)
  let shiftedMonth := (5 * dayOfYear + 2) / 153
  let month := if shiftedMonth < 10 then shiftedMonth + 3 else shiftedMonth - 9
  { year := era * 400 + yearOfEra + (if month ≤ 2 then 1 else 0)
    month := month
    day := dayOfYear - (153 * shiftedMonth + 2) / 5 + 1 }

/-- A number with zeros in front up to a width. -/
def padded (width n : Nat) : String :=
  let digits := Nat.toDigits 10 n
  String.ofList (List.replicate (width - digits.length) '0' ++ digits)

/-- The fraction of a second in the fewest of 0, 3, 6 or 9 digits. -/
def fraction (nanos : Nat) : String :=
  if nanos = 0 then ""
  else if nanos % 1000000 = 0 then "." ++ padded 3 (nanos / 1000000)
  else if nanos % 1000 = 0 then "." ++ padded 6 (nanos / 1000)
  else "." ++ padded 9 nanos

/-- The RFC 3339 text. -/
def toText (t : Time) : String :=
  let seconds := t.nanos.fdiv nanosPerSecond
  let nanos := (t.nanos.fmod nanosPerSecond).toNat
  let date := Date.ofDays (seconds.fdiv 86400)
  let second := (seconds.fmod 86400).toNat
  padded 4 date.year.toNat ++ "-" ++ padded 2 date.month ++ "-" ++ padded 2 date.day ++ "T" ++
    padded 2 (second / 3600) ++ ":" ++ padded 2 (second / 60 % 60) ++ ":" ++
    padded 2 (second % 60) ++ fraction nanos ++ "Z"

end Time

end ScriptedChat
