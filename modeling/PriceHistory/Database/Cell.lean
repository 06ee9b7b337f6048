import PriceHistory.Error

/-!
The cells of a stored row, and when two of them count as the same.
-/
namespace PriceHistory.Database

/-- How the texts of key cells are compared. -/
inductive Collation where
  /-- Each character counts. -/
  | exact
  /-- Spaces at the end do not count. -/
  | trailingSpacesIgnored
  deriving DecidableEq

/-- The part of a text that counts. -/
def Collation.significant : Collation → String → String
  | exact, s => s
  | trailingSpacesIgnored, s => String.ofList (s.toList.reverse.dropWhile (· == ' ')).reverse

/-- A cell that is not null: a text, or bytes of no meaning here. -/
inductive Cell where
  | text (value : String)
  | blob (bytes : List UInt8)
  deriving DecidableEq

namespace Cell

/-- Do two cells count as the same? A text is never the same as bytes. -/
def same (collation : Collation) : Cell → Cell → Bool
  | text a, text b => collation.significant a == collation.significant b
  | blob a, blob b => a == b
  | _, _ => false

/-- The order of cells: texts before bytes, each by their code units. -/
def le (collation : Collation) : Cell → Cell → Bool
  | text a, text b => collation.significant a ≤ collation.significant b
  | text _, blob _ => true
  | blob _, text _ => false
  | blob a, blob b => a ≤ b

/-- The text of a cell that holds one. -/
def read : Cell → Except CellFault String
  | text value => .ok value
  | blob _ => .error .blob

end Cell

end PriceHistory.Database
