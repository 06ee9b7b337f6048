import PriceHistory.Database.File.Value

/-!
The first hundred bytes of a file. They say how long its pages are and how many there are, and which
forms of the file a reader and a writer have to know.
-/
namespace PriceHistory.Database

/-- A file of pages. -/
structure File where
  image : Image
  pageSize : Nat
  /-- The part of each page that is used. -/
  usable : Nat
  pageCount : Nat
  /-- Is its form known well enough to be written? -/
  writable : Bool
  /-- Are changes kept in a log before they reach the file? -/
  logged : Bool
  encoding : Encoding
  deriving DecidableEq

namespace File

/-- How a file begins. -/
def mark : List UInt8 := "SQLite format 3\x00".toUTF8.toList

/-- The length of the header. -/
def headerSize : Nat := 100

/-- The shares of a page that a row may take: all writers have the same. -/
def shares : List UInt8 := [64, 32, 32]

/-- The form of a file whose changes are logged, the latest that is known. -/
def latestForm : Nat := 2

/-- The latest form of the schema that is known. -/
def latestSchema : Nat := 4

/-- The shortest and the longest page. -/
def pageSizes : Nat × Nat := (512, 65536)

/-- The least part of a page that has to be used. -/
def leastUsable : Nat := 480

/-- Is a number a power of two? -/
def isPowerOfTwo (n : Nat) : Bool := n == 1 <<< Nat.log2 n

/-- The number of pages. The file says it itself, unless it was changed by a writer that does not. -/
def countPages (image : Image) (pageSize : Nat) : Nat × Nat :=
  let found := (image.bytes.size + pageSize - 1) / pageSize
  let said := image.number 28 4
  (if said = 0 ∨ image.number 24 4 ≠ image.number 92 4 then found else said, found)

/-- How texts are stored. -/
def encodingOf (image : Image) : Encoding :=
  match image.number 56 4 % 4 with
  | 2 => .utf16 false
  | 3 => .utf16 true
  | _ => .utf8

/-- Reads the header of a file that is not empty. -/
def ofImage? (image : Image) : Except FileFault File := do
  let pageSize := image.byte 16 * 256 + image.byte 17 * 65536
  if image.part 0 mark.length ≠ mark ∨ latestForm < image.byte 19 ∨ image.part 21 3 ≠ shares ∨
      pageSize < pageSizes.1 ∨ pageSizes.2 < pageSize ∨ !isPowerOfTwo pageSize then
    throw .notDatabase
  let (pageCount, found) := countPages image pageSize
  if found < pageCount then throw .malformed
  let usable := pageSize - image.byte 20
  if usable < leastUsable then throw .notDatabase
  if latestSchema < image.byte 47 then throw .unsupported
  return ⟨image, pageSize, usable, pageCount, image.byte 18 ≤ latestForm,
    image.byte 19 = latestForm, encodingOf image⟩

/-- The header of a file of pages, as long as `pageSize` says, that is all in use. -/
def headerBytes (pageSize pageCount : Nat) : List UInt8 :=
  let form := UInt8.ofNat latestForm
  mark ++ numberBytes 2 pageSize ++ [form, form, 0] ++ shares ++ numberBytes 4 1 ++
    numberBytes 4 pageCount ++ numberBytes 8 0 ++ numberBytes 4 1 ++ numberBytes 4 latestSchema ++
    numberBytes 8 0 ++ numberBytes 4 1 ++ numberBytes 32 0 ++ numberBytes 4 1 ++
    numberBytes 4 version
where
  /-- The version of the writer that this form is known from. -/
  version : Nat := 3045000

end File

end PriceHistory.Database
