/-!
Decimal numerals: writing them padded with zeros, and reading a run of them at the front of a text.
-/
namespace PriceHistory.Text

/-- The numeral of `n`, with zeros in front up to `width` digits. -/
def padded (width n : Nat) : List Char :=
  (Nat.toDigits 10 n).leftpad width '0'

/-- The number that a run of digits stands for. -/
def digitsValue (ds : List Char) : Nat :=
  Nat.ofDigitChars 10 ds 0

/-- The digits at the front of a text. -/
def leadingDigits (cs : List Char) : List Char :=
  cs.takeWhile Char.isDigit

/-- What follows the digits at the front of a text. -/
def afterDigits (cs : List Char) : List Char :=
  cs.dropWhile Char.isDigit

/-- Reads the digits at the front, `limit` of them at most, and returns their value with what
follows. A number has at least one digit. -/
def number? (limit : Nat) (cs : List Char) : Option (Nat × List Char) :=
  match leadingDigits (cs.take limit) with
  | [] => none
  | ds => some (digitsValue ds, cs.drop ds.length)

end PriceHistory.Text
