import PriceHistory.Json.Numeral
import PriceHistory.Web.Percent

/-!
JSON documents and their reader. Strings are read as JSON has them; one whose escapes or bytes form
no text is still a string, with no text. How deep values nest does not matter.
-/
namespace PriceHistory

open PriceHistory.Web (hexValue? utf8Text?)

/-- A JSON value. Strings and field names are `none` where they form no text. -/
inductive Json where
  | null
  | bool (value : Bool)
  | number (literal : Json.Numeral)
  | string (text : Option String)
  | list (items : List Json)
  | object (fields : List (Option String × Json))

namespace Json

/-- The bytes of a document, or what is left of them. -/
abbrev Bytes := List UInt8

/-- The byte of an ASCII character. -/
def byte (c : Char) : UInt8 := UInt8.ofNat c.toNat

/-- Is this byte a blank? -/
def isBlankByte (b : UInt8) : Bool :=
  b == byte ' ' || b == byte '\n' || b == byte '\t' || b == byte '\r'

/-- Drops blanks. -/
def skipBlanks (bs : Bytes) : Bytes :=
  bs.dropWhile isBlankByte

/-- Reads one expected byte. -/
def expect (c : Char) : Bytes → Option Bytes
  | b :: rest => if b = byte c then some rest else none
  | [] => none

/-- Reads an expected word. -/
def expectWord (word : String) (bs : Bytes) : Option Bytes :=
  word.toList.foldlM (fun bs c => expect c bs) bs

/-- Is this byte a digit? -/
def isDigitByte (b : UInt8) : Bool :=
  byte '0' ≤ b && b ≤ byte '9'

/-- The digits at the front, and what follows them. -/
def digits (bs : Bytes) : List Char × Bytes :=
  ((bs.takeWhile isDigitByte).map fun b => Char.ofNat b.toNat, bs.dropWhile isDigitByte)

/-- Reads the whole part of a number: one zero, or digits that do not start with one. -/
def readWhole (bs : Bytes) : Option (List Char × Bytes) :=
  match digits bs with
  | ([], _) => none
  | ('0' :: _ :: _, _) => none
  | found => some found

/-- Reads the fraction of a number, where there is one. -/
def readFraction (bs : Bytes) : Option (List Char × Bytes) :=
  match expect '.' bs with
  | none => some ([], bs)
  | some rest =>
    match digits rest with
    | ([], _) => none
    | found => some found

/-- Reads the exponent of a number, where there is one. -/
def readExponent (bs : Bytes) : Option (Option (Bool × List Char) × Bytes) :=
  match (expect 'e' bs).or (expect 'E' bs) with
  | none => some (none, bs)
  | some rest =>
    let (negative, rest) := match expect '-' rest, expect '+' rest with
      | some rest, _ => (true, rest)
      | none, some rest => (false, rest)
      | none, none => (false, rest)
    match digits rest with
    | ([], _) => none
    | (ds, rest) => some (some (negative, ds), rest)

/-- Reads a number. -/
def readNumber (bs : Bytes) : Option (Numeral × Bytes) := do
  let (negative, rest) := match expect '-' bs with
    | some rest => (true, rest)
    | none => (false, bs)
  let (whole, rest) ← readWhole rest
  let (fraction, rest) ← readFraction rest
  let (exponent, rest) ← readExponent rest
  return (⟨negative, whole, fraction, exponent⟩, rest)

/-- A part of a string: a byte, or a code unit of 16 bits that an escape denotes. -/
inductive Piece where
  | byte (b : UInt8)
  | unit (n : Nat)

/-- Reads the four digits of an escape. -/
def readUnit : Bytes → Option (Nat × Bytes)
  | a :: b :: c :: d :: rest => do
    let value (x : UInt8) := hexValue? (Char.ofNat x.toNat)
    return (((16 * (← value a) + (← value b)) * 16 + (← value c)) * 16 + (← value d), rest)
  | _ => none

/-- The character that a letter after a backslash stands for. -/
def escaped? (b : UInt8) : Option UInt8 :=
  [('"', '"'), ('\\', '\\'), ('/', '/'), ('b', '\x08'), ('f', '\x0c'), ('n', '\n'), ('r', '\r'),
    ('t', '\t')].lookup (Char.ofNat b.toNat) |>.map byte

/-- Reads the pieces of a string up to its closing quote. -/
def readPieces : Nat → Bytes → Option (List Piece × Bytes)
  | 0, _ | _, [] => none
  | fuel + 1, b :: rest =>
    if b = byte '"' then some ([], rest)
    else if b = byte '\\' then
      match rest with
      | [] => none
      | letter :: rest =>
        if letter = byte 'u' then do
          let (n, rest) ← readUnit rest
          let (pieces, rest) ← readPieces fuel rest
          return (.unit n :: pieces, rest)
        else do
          let c ← escaped? letter
          let (pieces, rest) ← readPieces fuel rest
          return (.byte c :: pieces, rest)
    else if b < 0x20 then none
    else do
      let (pieces, rest) ← readPieces fuel rest
      return (.byte b :: pieces, rest)

/-- The bytes of pieces. A code unit that is half of a character needs its other half beside it. -/
def pieceBytes? : List Piece → Option Bytes
  | [] => some []
  | .byte b :: rest => (pieceBytes? rest).map (b :: ·)
  | .unit high :: .unit low :: rest =>
    if 0xD800 ≤ high ∧ high < 0xDC00 then
      if 0xDC00 ≤ low ∧ low < 0xE000 then
        let c := Char.ofNat (0x10000 + (high - 0xD800) * 0x400 + (low - 0xDC00))
        (pieceBytes? rest).map (String.utf8EncodeChar c ++ ·)
      else none
    else if 0xDC00 ≤ high ∧ high < 0xE000 then none
    else (pieceBytes? (.unit low :: rest)).map (String.utf8EncodeChar (Char.ofNat high) ++ ·)
  | .unit n :: rest =>
    if 0xD800 ≤ n ∧ n < 0xE000 then none
    else (pieceBytes? rest).map (String.utf8EncodeChar (Char.ofNat n) ++ ·)

/-- Reads a string after its opening quote. -/
def readString (bs : Bytes) : Option (Option String × Bytes) := do
  let (pieces, rest) ← readPieces (bs.length + 1) bs
  return ((pieceBytes? pieces).bind utf8Text?, rest)

mutual

/-- Reads a value. -/
def readValue : Nat → Bytes → Option (Json × Bytes)
  | 0, _ => none
  | fuel + 1, bs =>
    match bs with
    | [] => none
    | b :: rest =>
      if b = byte '"' then (readString rest).map fun (text, rest) => (string text, rest)
      else if b = byte '[' then
        match expect ']' (skipBlanks rest) with
        | some rest => some (list [], rest)
        | none => (readItems fuel (skipBlanks rest)).map fun (items, rest) => (list items, rest)
      else if b = byte '\x7b' then
        match expect '\x7d' (skipBlanks rest) with
        | some rest => some (object [], rest)
        | none => (readFields fuel (skipBlanks rest)).map fun (fields, rest) => (object fields, rest)
      else if b = byte 't' then (expectWord "true" bs).map fun rest => (bool true, rest)
      else if b = byte 'f' then (expectWord "false" bs).map fun rest => (bool false, rest)
      else if b = byte 'n' then (expectWord "null" bs).map fun rest => (null, rest)
      else (readNumber bs).map fun (n, rest) => (number n, rest)

/-- Reads the items of a list up to its closing bracket. -/
def readItems : Nat → Bytes → Option (List Json × Bytes)
  | 0, _ => none
  | fuel + 1, bs => do
    let (item, rest) ← readValue fuel bs
    match expect ',' (skipBlanks rest) with
    | some rest => do
      let (items, rest) ← readItems fuel (skipBlanks rest)
      return (item :: items, rest)
    | none => do
      let rest ← expect ']' (skipBlanks rest)
      return ([item], rest)

/-- Reads the fields of an object up to its closing brace. -/
def readFields : Nat → Bytes → Option (List (Option String × Json) × Bytes)
  | 0, _ => none
  | fuel + 1, bs => do
    let rest ← expect '"' bs
    let (name, rest) ← readString rest
    let rest ← expect ':' (skipBlanks rest)
    let (value, rest) ← readValue fuel (skipBlanks rest)
    match expect ',' (skipBlanks rest) with
    | some rest => do
      let (fields, rest) ← readFields fuel (skipBlanks rest)
      return ((name, value) :: fields, rest)
    | none => do
      let rest ← expect '\x7d' (skipBlanks rest)
      return ([(name, value)], rest)

end

/-- Reads a document: one value, with blanks around it. -/
def ofBytes? (bs : Bytes) : Option Json := do
  let (value, rest) ← readValue (bs.length + 1) (skipBlanks bs)
  if skipBlanks rest = [] then some value else none

end Json

end PriceHistory
