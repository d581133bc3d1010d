import ScriptedChat.Text.Percent
import ScriptedChat.Text.Quoted

/-!
Socket addresses. An address of version 4 has four decimal octets without leading zeros. One of
version 6 stands in brackets and has eight groups of hexadecimal digits, of which one series of
zeros may be written as two colons and the last two as an address of version 4, and then
perhaps a zone. Version 6 is written with its longest series of at least two zeros left out,
the first of several, and in lower case.
-/
namespace ScriptedChat

/-- The number of a port. -/
abbrev Port := UInt16

inductive SocketAddress
  | v4 (octets : List Nat) (port : Port)
  | v6 (groups : List Nat) (zone : Nat) (port : Port)
  deriving DecidableEq

namespace SocketAddress

/-- Reads something from the front of a text. -/
abbrev Reader (α : Type) := List Char → Option (α × List Char)

/-- Reads a character that has to be there. -/
def expect (c : Char) (text : List Char) : Option (List Char) :=
  match text with
  | d :: rest => if d = c then some rest else none
  | [] => none

/-- The value of a digit in a base of at most 16. -/
def digit? (base : Nat) (c : Char) : Option Nat :=
  (Text.hexValue? c).filter (· < base)

/-- Reads a number below a bound that has at most so many digits. -/
def number (base bound : Nat) (width : Option Nat) (zeroInFront : Bool) : Reader Nat := fun text =>
  let digits := text.takeWhile fun c => (digit? base c).isSome
  let value := (digits.filterMap (digit? base)).foldl (fun n d => n * base + d) 0
  let tooWide := width.any (digits.length > ·)
  let padded := digits.length > 1 && digits.head? == some '0'
  if digits.isEmpty || tooWide || bound ≤ value || (padded && !zeroInFront) then none
  else some (value, text.drop digits.length)

def octet : Reader Nat := number 10 256 (some 3) false

def octets : Reader (List Nat) := fun text => do
  let (a, rest) ← octet text
  let (b, rest) ← octet (← expect '.' rest)
  let (c, rest) ← octet (← expect '.' rest)
  let (d, rest) ← octet (← expect '.' rest)
  return ([a, b, c, d], rest)

/-- Reads an item that has a colon in front unless it is the first one. -/
def separated {α : Type} (first : Bool) (item : Reader α) : Reader α := fun text =>
  if first then item text else (expect ':' text).bind item

/-- Reads up to so many groups, of which the last two may be four octets; tells whether they
were. -/
def groups (first : Bool) : Nat → List Char → List Nat × Bool × List Char
  | 0, text => ([], false, text)
  | limit + 1, text =>
    match if limit = 0 then none else separated first octets text with
    | some ([a, b, c, d], rest) => ([256 * a + b, 256 * c + d], true, rest)
    | _ =>
      match separated first (number 16 65536 (some 4) true) text with
      | none => ([], false, text)
      | some (g, rest) =>
        let (more, quad, rest) := groups false limit rest
        (g :: more, quad, rest)

def address6 : Reader (List Nat) := fun text => do
  let (head, quad, rest) := groups true 8 text
  if head.length = 8 then return (head, rest)
  if quad then none
  let rest ← expect ':' (← expect ':' rest)
  let (tail, _, rest) := groups true (7 - head.length) rest
  return (head ++ List.replicate (8 - head.length - tail.length) 0 ++ tail, rest)

/-- Reads a colon and a port to the end of the text. -/
def portAtEnd (text : List Char) : Option Port := do
  let (port, rest) ← number 10 65536 none true (← expect ':' text)
  if rest.isEmpty then some port.toUInt16 else none

def readV4 (text : List Char) : Option SocketAddress := do
  let (address, rest) ← octets text
  return .v4 address (← portAtEnd rest)

def readV6 (text : List Char) : Option SocketAddress := do
  let (address, rest) ← address6 (← expect '[' text)
  let (zone, rest) ←
    match expect '%' rest with
    | some rest => number 10 UInt32.size none true rest
    | none => some (0, rest)
  return .v6 address zone (← portAtEnd (← expect ']' rest))

def ofText? (s : String) : Option SocketAddress := (readV4 s.toList).or (readV6 s.toList)

def octetsText (octets : List Nat) : String := ".".intercalate (octets.map toString)

def groupsText (groups : List Nat) : String := ":".intercalate (groups.map Text.hex)

/-- The number of zeros at the front. -/
def zerosInFront (groups : List Nat) : Nat := (groups.takeWhile (· == 0)).length

/-- Where the longest series of zeros starts and how long it is, the first of several. -/
def longestZeros (groups : List Nat) : Nat × Nat :=
  (List.range groups.length).foldl
    (fun best i =>
      let length := zerosInFront (groups.drop i)
      if best.2 < length then (i, length) else best) (0, 0)

def address6Text (groups : List Nat) : String :=
  match groups with
  | [0, 0, 0, 0, 0, 0xFFFF, g, h] =>
    "::ffff:" ++ octetsText [g / 256, g % 256, h / 256, h % 256]
  | _ =>
    let (start, length) := longestZeros groups
    if 1 < length then
      groupsText (groups.take start) ++ "::" ++ groupsText (groups.drop (start + length))
    else groupsText groups

def toText : SocketAddress → String
  | .v4 octets port => octetsText octets ++ ":" ++ toString port
  | .v6 groups zone port =>
    "[" ++ address6Text groups ++ (if zone = 0 then "" else "%" ++ toString zone) ++ "]:" ++
      toString port

end SocketAddress

end ScriptedChat
