import ScriptedChat.Text.Percent

/-!
Identifiers of 128 bits. They are written as 32 lower-case hexadecimal digits in groups of
8, 4, 4, 4 and 12, and are read in either case from that form, from the same form behind
`urn:uuid:` or between braces, and from the bare digits. Their order is that of their text.
-/
namespace ScriptedChat

structure Uuid where
  bits : BitVec 128
  deriving DecidableEq

namespace Uuid

instance : Inhabited Uuid := ⟨⟨0⟩⟩

instance : Ord Uuid := ⟨fun a b => compare a.bits b.bits⟩

instance : Std.TransOrd Uuid where
  eq_swap := Std.OrientedOrd.eq_swap (α := BitVec 128)
  isLE_trans := Std.TransOrd.isLE_trans (α := BitVec 128)

instance : Std.LawfulEqOrd Uuid where
  compare_self := Std.ReflOrd.compare_self (α := BitVec 128)
  eq_of_compare {a b} h := by
    have := Std.LawfulEqOrd.eq_of_compare (α := BitVec 128) h
    cases a; cases b; cases this; rfl

/-- The last `count` hexadecimal digits of a number. -/
def hexDigits : Nat → Nat → List Char
  | 0, _ => []
  | count + 1, n => hexDigits count (n / 16) ++ [Nat.digitChar (n % 16)]

/-- The written form. -/
def toText (u : Uuid) : String :=
  let digits := hexDigits 32 u.bits.toNat
  let group (start length : Nat) := (digits.drop start).take length
  String.ofList (group 0 8 ++ '-' :: group 8 4 ++ '-' :: group 12 4 ++ '-' :: group 16 4 ++
    '-' :: group 20 12)

instance : ToString Uuid := ⟨toText⟩

/-- The value of hexadecimal digits, most significant first. -/
def hexNumber? : Nat → List Char → Option Nat
  | value, [] => some value
  | value, c :: rest =>
    match Text.hexValue? c with
    | none => none
    | some d => hexNumber? (16 * value + d) rest

/-- Reads 32 digits. -/
def ofDigits? (digits : List Char) : Option Uuid :=
  if digits.length = 32 then (hexNumber? 0 digits).map fun n => ⟨BitVec.ofNat 128 n⟩ else none

/-- Reads five groups of digits with hyphens between them. -/
def ofGroups? (text : List Char) : Option Uuid :=
  let hyphens := [8, 13, 18, 23]
  if text.length = 36 ∧ hyphens.all (fun i => text[i]? == some '-') then
    ofDigits? (text.filter (· != '-'))
  else none

def lowerAscii (c : Char) : Char :=
  if 'A' ≤ c ∧ c ≤ 'Z' then Char.ofNat (c.toNat + 32) else c

/-- Reads any of the four forms. -/
def ofText? (s : String) : Option Uuid :=
  let text := s.toList
  match text.length with
  | 32 => ofDigits? text
  | 36 => ofGroups? text
  | 38 =>
    if text.head? = some '\x7b' ∧ text.getLast? = some '\x7d' then ofGroups? (text.drop 1).dropLast
    else none
  | 45 =>
    if (text.take 9).map lowerAscii = "urn:uuid:".toList then ofGroups? (text.drop 9) else none
  | _ => none

end Uuid

end ScriptedChat
