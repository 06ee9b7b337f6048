import PriceHistory.Text.Digits

/-!
Decimal numbers with a sign, a coefficient of 96 bits and up to 28 places. Two numbers may have one
value and still differ in their places: `1.1` and `1.10` are different decimals.
-/
namespace PriceHistory

open PriceHistory.Text

namespace Decimal

/-- Coefficients are below this number. -/
def coefficientLimit : Nat := 1 <<< 96

theorem coefficientLimit_pos : 0 < coefficientLimit := by decide

/-- The largest number of places. -/
def maxScale : Nat := 28

end Decimal

/-- A decimal without its sign: the number `coefficient / 10 ^ scale`, written with `scale`
places. -/
structure Magnitude where
  coefficient : Nat
  scale : Nat
  fits : coefficient < Decimal.coefficientLimit
  scale_le : scale ≤ Decimal.maxScale
  deriving DecidableEq

/-- A decimal. A number that rounding has brought to zero may keep its minus sign. -/
structure Decimal extends Magnitude where
  negative : Bool
  deriving DecidableEq

/-- No digits. -/
def Magnitude.zero : Magnitude := ⟨0, 0, Decimal.coefficientLimit_pos, Nat.zero_le Decimal.maxScale⟩

/-- The decimal of a sign and a magnitude. Zero takes no sign. -/
def Magnitude.signed (negative : Bool) (m : Magnitude) : Decimal :=
  ⟨m, negative && m.coefficient != 0⟩

namespace Decimal

/-- The coefficient with its sign. -/
def signedCoefficient (d : Decimal) : Int :=
  if d.negative then -(d.coefficient : Int) else d.coefficient

/-- The decimal of a coefficient with its sign and a scale, where there is one. -/
def of? (coefficient : Int) (scale : Nat) : Option Decimal :=
  if h : coefficient.natAbs < coefficientLimit ∧ scale ≤ maxScale then
    some (Magnitude.signed (coefficient < 0) ⟨coefficient.natAbs, scale, h.1, h.2⟩)
  else none

/-- Zero without places. -/
def zero : Decimal := ⟨.zero, false⟩

/-- Do two decimals have the same value, whatever their places? -/
def sameValue (a b : Decimal) : Bool :=
  a.signedCoefficient * Nat.pow 10 b.scale == b.signedCoefficient * Nat.pow 10 a.scale

/-- The digits of a decimal, with the point before the last `scale` of them and one digit at least
before the point. -/
def digitsText (scale : Nat) (n : Nat) : List Char :=
  let ds := padded (scale + 1) n
  if scale = 0 then ds else ds.take (ds.length - scale) ++ '.' :: ds.drop (ds.length - scale)

/-- The written form: every place is written, zeros too. -/
def text (d : Decimal) : String :=
  let digits := digitsText d.scale d.coefficient
  String.ofList (if d.negative then '-' :: digits else digits)

end Decimal

end PriceHistory
