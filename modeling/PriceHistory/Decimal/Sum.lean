import PriceHistory.Decimal.Basic

/-!
Sums of decimals. A sum is exact where it fits, and is written with the places of the term that has
more of them; where it does not fit, it gives up as few places as it can.
-/
namespace PriceHistory.Decimal

/-- The whole number nearest to `n / d`; of two that are equally near, the even one. -/
def nearestEven (n d : Nat) : Nat :=
  let q := n / d
  let twice := 2 * (n % d)
  if twice < d then q else if d < twice then q + 1 else q + q % 2

/-- A number with a given count of places, rounded to as many of them as fit. -/
def rounded? (coefficient : Int) (scale : Nat) : Option Decimal :=
  (List.range (scale + 1)).findSome? fun dropped =>
    of? (coefficient.sign * nearestEven coefficient.natAbs (Nat.pow 10 dropped)) (scale - dropped)

/-- The sum of two decimals, where there is one. A term that is zero leaves the other as it is. -/
def add? (a b : Decimal) : Option Decimal :=
  if a.coefficient = 0 then some b
  else if b.coefficient = 0 then some a
  else
    let scale := max a.scale b.scale
    rounded? (a.signedCoefficient * Nat.pow 10 (scale - a.scale) +
      b.signedCoefficient * Nat.pow 10 (scale - b.scale)) scale

/-- A whole number of 32 bits, without places. -/
def ofInt (n : Int) (fits : n.natAbs < 1 <<< 32) : Decimal :=
  Magnitude.signed (n < 0) ⟨n.natAbs, 0, Nat.lt_trans fits (by decide), Nat.zero_le maxScale⟩

end PriceHistory.Decimal
