/-!
Floating-point numbers of 64 bits without a sign, in exact arithmetic: rounding a ratio of whole
numbers to the nearest of them, and multiplying and dividing with that rounding.
-/
namespace PriceHistory

/-- The number `mantissa * 2 ^ exponent`. -/
structure Binary64 where
  mantissa : Nat
  exponent : Int
  deriving DecidableEq

namespace Binary64

/-- Mantissas have 53 bits. -/
def mantissaBits : Nat := 53

/-- The exponent of the smallest numbers. -/
def minExponent : Int := -1074

/-- The exponent of the largest numbers. -/
def maxExponent : Int := 971

/-- Zero. -/
def zero : Binary64 := ⟨0, minExponent⟩

/-- `n / d` rounded to a whole number, a half to the even neighbour. -/
def roundDiv (n d : Nat) : Nat :=
  let q := n / d
  let twice := 2 * (n % d)
  if twice < d then q else if d < twice then q + 1 else q + q % 2

/-- The ratio `n / d * 2 ^ -e`, with whole numbers above and below. -/
def scaled (n d : Nat) (e : Int) : Nat × Nat :=
  if 0 ≤ e then (n, d <<< e.toNat) else (n <<< (-e).toNat, d)

/-- The exponent with which `n / d` has a mantissa of 53 bits, or the smallest exponent. -/
def exponentOf (n d : Nat) : Int :=
  let guess : Int := n.log2 - d.log2 - mantissaBits
  let (high, low) := scaled n d guess
  let e := if high / low < 1 <<< mantissaBits then guess else guess + 1
  max minExponent e

/-- The number nearest to `n / d`; of two, the one with the even mantissa. There is none where that
is too large. -/
def ofRatio? (n d : Nat) : Option Binary64 :=
  if n = 0 then some zero
  else
    let e := exponentOf n d
    let (high, low) := scaled n d e
    let m := roundDiv high low
    let (m, e) := if m = 1 <<< mantissaBits then (1 <<< (mantissaBits - 1), e + 1) else (m, e)
    if e ≤ maxExponent then some ⟨m, e⟩ else none

/-- The value of a number as a ratio. -/
def ratio (x : Binary64) : Nat × Nat :=
  if 0 ≤ x.exponent then (x.mantissa <<< x.exponent.toNat, 1)
  else (x.mantissa, 1 <<< (-x.exponent).toNat)

/-- The nearest number to a product. -/
def mul? (x y : Binary64) : Option Binary64 :=
  ofRatio? (x.ratio.1 * y.ratio.1) (x.ratio.2 * y.ratio.2)

/-- The nearest number to a quotient. -/
def div? (x y : Binary64) : Option Binary64 :=
  ofRatio? (x.ratio.1 * y.ratio.2) (x.ratio.2 * y.ratio.1)

end Binary64

end PriceHistory
