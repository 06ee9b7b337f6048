import PriceHistory.Database.File.Image
import PriceHistory.Error

/-!
The stored form of a row: the packed size of its header, a packed code for each value that tells its
kind and length, and then the values themselves.
-/
namespace PriceHistory.Database

/-- How texts are stored. -/
inductive Encoding where
  | utf8
  | utf16 (highFirst : Bool)
  deriving DecidableEq

namespace Encoding

/-- The units of a text in UTF-16. A byte left over is dropped. -/
def units (highFirst : Bool) : List UInt8 → List Nat
  | a :: b :: rest =>
    (if highFirst then 256 * a.toNat + b.toNat else 256 * b.toNat + a.toNat) ::
      units highFirst rest
  | _ => []

/-- The characters of units. Two halves make one character, and a half alone counts as unknown. -/
def characters : List Nat → List Char
  | high :: low :: rest =>
    if 0xD800 ≤ high ∧ high < 0xDC00 ∧ 0xDC00 ≤ low ∧ low < 0xE000 then
      Char.ofNat (0x10000 + 1024 * (high - 0xD800) + (low - 0xDC00)) :: characters rest
    else character high :: characters (low :: rest)
  | [unit] => [character unit]
  | [] => []
where
  character (unit : Nat) : Char :=
    if 0xD800 ≤ unit ∧ unit < 0xE000 then '\uFFFD' else Char.ofNat unit

/-- The text that is stored as some bytes. Bytes that make up no text in UTF-8 are read one by one. -/
def text : Encoding → List UInt8 → String
  | utf8, bytes =>
    (String.fromUTF8? ⟨bytes.toArray⟩).getD
      (String.ofList (bytes.map fun b => if b < 128 then Char.ofNat b.toNat else '\uFFFD'))
  | utf16 highFirst, bytes => String.ofList (characters (units highFirst bytes))

end Encoding

/-- A stored value. -/
inductive Value where
  | null
  | integer (n : Int)
  /-- A number with a fraction, which nothing here reads. -/
  | real
  | text (s : String)
  | blob (bytes : List UInt8)
  deriving DecidableEq

namespace Value

/-- The widths of integers, by their codes from one. -/
def integerWidths : List Nat := [1, 2, 3, 4, 6, 8]

/-- The number of bytes that a value of a code takes. -/
def width (code : Nat) : Nat :=
  if code = 0 then 0
  else if code ≤ 6 then integerWidths.getD (code - 1) 0
  else if code = 7 then 8
  else (code - 12) / 2

/-- Reads the value of a code. -/
def ofCode (encoding : Encoding) (row : Image) (code place : Nat) : Value :=
  let width := width code
  if code = 0 ∨ code = 10 ∨ code = 11 then null
  else if code ≤ 6 then integer (Int.bmod (row.number place width) (1 <<< (8 * width)))
  else if code = 7 then real
  else if code ≤ 9 then integer (code - 8)
  else
    let bytes := row.part place width
    if code % 2 = 0 then blob bytes else text (encoding.text bytes)

/-- The code of a value to be written, with its bytes. Integers are those of no sign below two to
the power of 32. -/
def coded : Value → Nat × List UInt8
  | null | real => (0, [])
  | integer n => (4, numberBytes 4 n.toNat)
  | text s => (13 + 2 * s.utf8ByteSize, s.toUTF8.toList)
  | blob bytes => (12 + 2 * bytes.length, bytes)

/-- A value as a text. It ends before a character zero. -/
def shown? : Value → Option String
  | null => none
  | integer n => some (toString n)
  | real => some "."
  | text s => some (beforeZero s)
  | blob bytes => some (beforeZero (Encoding.utf8.text bytes))
where
  beforeZero (s : String) : String := String.ofList (s.toList.takeWhile (· ≠ '\x00'))

end Value

/-- The codes at the front of a row, so many at most, with the place after them. At least one is
read, and none that starts beyond the end of the header. -/
def codes (row : Image) (headerEnd : Nat) : Nat → Nat → List Nat × Nat
  | 0, place => ([], place)
  | limit + 1, place =>
    let (code, place) := row.packed place
    if place < headerEnd then
      let (more, last) := codes row headerEnd limit place
      (code :: more, last)
    else ([code], place)

/-- Codes with the places of their values, which follow one another. -/
def placed : Nat → List Nat → List (Nat × Nat)
  | _, [] => []
  | place, code :: rest => (code, place) :: placed (place + Value.width code) rest

/-- The values at the front of a row, so many at most. A row whose header and values do not fill it
as they say is malformed. -/
def rowValues? (encoding : Encoding) (limit : Nat) (row : Image) : Except FileFault (List Value) :=
  let (headerEnd, first) := row.packed 0
  let size := row.bytes.size
  if headerEnd = 0 then .ok []
  else if size < headerEnd then .error .malformed
  else
    let (codes, last) := codes row headerEnd limit first
    let dataEnd := codes.foldl (fun place code => place + Value.width code) headerEnd
    if headerEnd < last ∨ size < dataEnd ∨ last = headerEnd ∧ dataEnd ≠ size then
      .error .malformed
    else
      .ok ((placed headerEnd codes).map fun (code, place) => Value.ofCode encoding row code place)

/-- The stored form of a row, with a header of less than 128 bytes. -/
def rowBytes (values : List Value) : List UInt8 :=
  let coded := values.map Value.coded
  let header := coded.flatMap fun (code, _) => packedBytes code
  packedBytes (header.length + 1) ++ header ++ coded.flatMap fun (_, bytes) => bytes

end PriceHistory.Database
