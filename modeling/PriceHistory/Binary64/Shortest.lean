import PriceHistory.Binary64.Basic

/-!
The fewest decimal digits that lead back to a floating-point number, and of these the nearest, and
the number written with them in positional notation.
-/
namespace PriceHistory.Binary64

/-- The ends of the reals that round to a number, and the number itself, over one denominator. -/
structure Interval where
  low : Nat
  value : Nat
  high : Nat
  denominator : Nat
  /-- Do the ends belong to it? -/
  closed : Bool

/-- The reals that round to a number. The gap below a power of two is half as wide as the one
above. -/
def interval (x : Binary64) : Interval :=
  let (n, d) := ratio ⟨1, x.exponent⟩
  let narrow := x.mantissa = 1 <<< (mantissaBits - 1) ∧ minExponent < x.exponent
  ⟨(if narrow then 4 * x.mantissa - 1 else 4 * x.mantissa - 2) * n, 4 * x.mantissa * n,
    (4 * x.mantissa + 2) * n, 4 * d, x.mantissa % 2 = 0⟩

/-- Does a ratio lie in the interval? -/
def Interval.holds (i : Interval) (n d : Nat) : Bool :=
  let low := i.low * d
  let high := i.high * d
  let x := n * i.denominator
  if i.closed then low ≤ x && x ≤ high else low < x && x < high

/-- The distance of a ratio from the number itself, times both denominators. -/
def Interval.distance (i : Interval) (n d : Nat) : Nat :=
  (n * i.denominator - i.value * d) + (i.value * d - n * i.denominator)

/-- Ten to a power, as a ratio. -/
def powerOfTen (k : Int) : Nat × Nat :=
  if 0 ≤ k then (Nat.pow 10 k.toNat, 1) else (1, Nat.pow 10 (-k).toNat)

/-- The multiple of `10 ^ k` in the interval that is nearest to the number, as its factor. -/
def onGrid? (i : Interval) (k : Int) : Option Nat :=
  let (n, d) := powerOfTen k
  let below := i.value * d / (i.denominator * n)
  let inside (m : Nat) := i.holds (m * n) d
  let distance (m : Nat) := i.distance (m * n) d
  match inside below, inside (below + 1) with
  | true, true => some (if distance below < distance (below + 1) then below else below + 1)
  | true, false => some below
  | false, true => some (below + 1)
  | false, false => none

/-- The number of digits before the point, or less than one for a number below one tenth. -/
def magnitude (i : Interval) : Int :=
  let whole := i.value / i.denominator
  if whole ≠ 0 then (Nat.toDigits 10 whole).length
  else 1 - (Nat.toDigits 10 (i.denominator / i.value)).length

/-- The first grid with a multiple in the interval, from the coarsest on, as a factor and a power. -/
def search (i : Interval) : Nat → Int → Option (Nat × Int)
  | 0, _ => none
  | steps + 1, k =>
    match onGrid? i k with
    | some m => some (m, k)
    | none => search i steps (k - 1)

/-- The shortest decimal `m * 10 ^ k` that leads back to a number. -/
def shortest (x : Binary64) : Nat × Int :=
  if x.mantissa = 0 then (0, 0)
  else (search (interval x) 20 (magnitude (interval x))).getD (0, 0)

/-- The shortest decimal in positional notation. -/
def positional (x : Binary64) : List Char :=
  let (m, k) := shortest x
  if 0 ≤ k then Nat.toDigits 10 (m * Nat.pow 10 k.toNat)
  else
    let places := (-k).toNat
    let ds := (Nat.toDigits 10 m).leftpad (places + 1) '0'
    ds.take (ds.length - places) ++ '.' :: ds.drop (ds.length - places)

end PriceHistory.Binary64
