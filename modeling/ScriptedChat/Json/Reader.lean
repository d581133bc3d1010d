import ScriptedChat.Json.Number

/-!
Reading JSON from bytes. The reader never fails: where the text stops being JSON it leaves the
mark `torn` and gives up what follows, so that everything in front of the fault can still be
looked at in the order of the text. Containers may be nested 127 deep; a deeper one is spoiled
although its text is read to the end.
-/
namespace ScriptedChat.Json

/-- A document and the bytes behind it, which are gone when the document is torn. -/
abbrev Reading := Json × Option (List UInt8)

def deepest : Nat := 127

def isSpace (b : UInt8) : Bool := b == 32 || b == 9 || b == 10 || b == 13

def skipSpace (input : List UInt8) : List UInt8 := input.dropWhile isSpace

def hexDigit? (b : UInt8) : Option Nat :=
  if 48 ≤ b && b ≤ 57 then some (b.toNat - 48)
  else if 97 ≤ b && b ≤ 102 then some (b.toNat - 87)
  else if 65 ≤ b && b ≤ 70 then some (b.toNat - 55)
  else none

def hexUnit? (a b c d : UInt8) : Option Nat :=
  return (((← hexDigit? a) * 16 + (← hexDigit? b)) * 16 + (← hexDigit? c)) * 16 + (← hexDigit? d)

/-- What a string is made of: bytes that stand for themselves and UTF-16 units that were
written by number. -/
inductive Piece
  | byte (b : UInt8)
  | unit (n : Nat)

/-- The character behind a backslash that a single letter names. -/
def shortEscape? (b : UInt8) : Option UInt8 :=
  if b == byte '"' || b == byte '\\' || b == byte '/' then some b
  else if b == byte 'b' then some 8
  else if b == byte 'f' then some 12
  else if b == byte 'n' then some 10
  else if b == byte 'r' then some 13
  else if b == byte 't' then some 9
  else none

/-- The pieces of a string behind its opening quote, and the bytes behind the closing one. -/
def readPieces : List UInt8 → Option (List Piece × List UInt8)
  | [] => none
  | b :: rest =>
    if b == byte '"' then some ([], rest)
    else if b == byte '\\' then
      match rest with
      | [] => none
      | e :: rest =>
        if e == byte 'u' then
          match rest with
          | a :: b :: c :: d :: rest => do
            let n ← hexUnit? a b c d
            let (pieces, rest) ← readPieces rest
            return (.unit n :: pieces, rest)
          | _ => none
        else do
          let c ← shortEscape? e
          let (pieces, rest) ← readPieces rest
          return (.byte c :: pieces, rest)
    else if b < 32 then none
    else do
      let (pieces, rest) ← readPieces rest
      return (.byte b :: pieces, rest)

def charBytes (n : Nat) : List UInt8 := (Char.ofNat n).toString.toUTF8.toList

def isHighSurrogate (n : Nat) : Bool := 0xD800 ≤ n && n ≤ 0xDBFF

def isLowSurrogate (n : Nat) : Bool := 0xDC00 ≤ n && n ≤ 0xDFFF

/-- The bytes of a string, unless half of a surrogate pair stands alone in it. -/
def pieceBytes? : List Piece → Option (List UInt8)
  | [] => some []
  | .byte b :: rest => (pieceBytes? rest).map (b :: ·)
  | .unit n :: rest =>
    if isHighSurrogate n then
      match rest with
      | .unit low :: rest =>
        if isLowSurrogate low then
          (pieceBytes? rest).map
            (charBytes (0x10000 + (n - 0xD800) * 0x400 + (low - 0xDC00)) ++ ·)
        else none
      | _ => none
    else if isLowSurrogate n then none
    else (pieceBytes? rest).map (charBytes n ++ ·)

/-- A string behind its opening quote, unless it is spoiled, and the bytes behind the closing
quote. -/
def readText (input : List UInt8) : Option (Option String × List UInt8) := do
  let (pieces, rest) ← readPieces input
  return ((pieceBytes? pieces).bind fun bytes => String.fromUTF8? bytes.toByteArray, rest)

/-- A value that is torn if it cannot be read. -/
def reading : Option (Json × List UInt8) → Reading
  | some (value, rest) => (value, some rest)
  | none => (.torn, none)

/-- A word that denotes a value. -/
def readWord (word : String) (value : Json) (input : List UInt8) : Reading :=
  let bytes := word.toUTF8.toList
  if bytes.isPrefixOf input then (value, some (input.drop bytes.length)) else (.torn, none)

/-- A container that was read at a depth: spoiled when it lies too deep. -/
def nested (depth : Nat) (value : Json) (rest : Option (List UInt8)) : Reading :=
  (if deepest ≤ depth && rest.isSome then .spoiled else value, rest)

/-- A member by the key that was read for it. -/
def named (key : Option String) (value : Json) : String × Json :=
  match key with
  | some name => (name, value)
  | none => ("", .unnamed)

mutual

/-- A value inside `depth` containers. The fuel bounds the number of values and of separators
that are read, and twice the length of the text is enough of it. -/
def readValue (fuel depth : Nat) (input : List UInt8) : Reading :=
  match fuel with
  | 0 => (.torn, none)
  | fuel + 1 =>
    match skipSpace input with
    | [] => (.torn, none)
    | b :: rest =>
      if b == byte '"' then
        match readText rest with
        | none => (.torn, none)
        | some (some s, rest) => (.string s, some rest)
        | some (none, rest) => (.spoiled, some rest)
      else if b == byte '[' then
        let (items, rest) := readItems fuel (depth + 1) true rest
        nested depth (.array items) rest
      else if b == byte '\x7b' then
        let (members, rest) := readMembers fuel (depth + 1) true rest
        nested depth (.object members) rest
      else if b == byte '-' then reading (readNumber? true rest)
      else if isDigit b then reading (readNumber? false (b :: rest))
      else if b == byte 'n' then readWord "null" .null (b :: rest)
      else if b == byte 't' then readWord "true" (.bool true) (b :: rest)
      else if b == byte 'f' then readWord "false" (.bool false) (b :: rest)
      else (.torn, none)

/-- The items of an array up to its end; in front of the first there is no comma. -/
def readItems (fuel depth : Nat) (first : Bool) (input : List UInt8) :
    List Json × Option (List UInt8) :=
  match fuel with
  | 0 => ([.torn], none)
  | fuel + 1 =>
    match skipSpace input with
    | [] => ([.torn], none)
    | b :: rest =>
      if b == byte ']' then ([], some rest)
      else if !first && b != byte ',' then ([.torn], none)
      else
        match readValue fuel depth (if first then b :: rest else rest) with
        | (item, none) => ([item], none)
        | (item, some rest) =>
          let (items, rest) := readItems fuel depth false rest
          (item :: items, rest)

/-- The members of an object up to its end. Where no key can be found they end with a torn member
without name. -/
def readMembers (fuel depth : Nat) (first : Bool) (input : List UInt8) :
    List (String × Json) × Option (List UInt8) :=
  match fuel with
  | 0 => ([("", .torn)], none)
  | fuel + 1 =>
    match skipSpace input with
    | [] => ([("", .torn)], none)
    | b :: rest =>
      if b == byte '\x7d' then ([], some rest)
      else if !first && b != byte ',' then ([("", .torn)], none)
      else
        match skipSpace (if first then b :: rest else rest) with
        | 34 :: rest =>
          match readText rest with
          | some (key, rest) =>
            match skipSpace rest with
            | 58 :: rest =>
              match readValue fuel depth rest with
              | (value, none) => ([(key.getD "", value)], none)
              | (value, some rest) =>
                let (members, rest) := readMembers fuel depth false rest
                (named key value :: members, rest)
            | _ => ([(key.getD "", .torn)], none)
          | none => ([("", .torn)], none)
        | _ => ([("", .torn)], none)

end

/-- A document from the front of a text, and what follows it. -/
def read (bytes : List UInt8) : Reading := readValue (2 * bytes.length + 2) 0 bytes

/-- Whether nothing but white space is left. -/
def atEnd : Option (List UInt8) → Bool
  | none => false
  | some rest => (skipSpace rest).isEmpty

/-- The document that a whole text denotes, with the last of repeated keys. -/
def ofText? (s : String) : Option Json :=
  match read s.toUTF8.toList with
  | (j, rest) => if atEnd rest then j.clean? else none

end ScriptedChat.Json
