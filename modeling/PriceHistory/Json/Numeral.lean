import PriceHistory.Binary64.Basic
import PriceHistory.Text.Digits

/-!
JSON number literals: their parts, their exact value as an integer, and the floating-point number
that is taken for one that is no 64-bit integer.
-/
namespace PriceHistory.Json

open PriceHistory.Text

/-- The parts of a number literal. A literal without a point has no fraction digits. -/
structure Numeral where
  negative : Bool
  whole : List Char
  fraction : List Char
  exponent : Option (Bool × List Char)
  deriving DecidableEq

namespace Numeral

/-- The integer that a literal denotes, where it is written as one and has 64 bits. Minus zero is no
integer. -/
def integer? (n : Numeral) : Option Int :=
  if n.fraction = [] ∧ n.exponent = none then
    let value := digitsValue n.whole
    if n.negative then if 0 < value ∧ value ≤ 1 <<< 63 then some (-(value : Int)) else none
    else if value < 1 <<< 64 then some (value : Int) else none
  else none

/-- Adds digits to a significand as long as it keeps within 64 bits; returns it with the number of
digits that were added. -/
def accumulate : Nat → List Char → Nat × Nat
  | significand, [] => (significand, 0)
  | significand, d :: rest =>
    let next := 10 * significand + digitsValue [d]
    if next < 1 <<< 64 then
      let (significand, count) := accumulate next rest
      (significand, count + 1)
    else (significand, 0)

/-- The significand of a literal and the power of ten that belongs to it, before its exponent.
Digits that no longer fit count as zeros before the point and are dropped after it. -/
def significand (n : Numeral) : Nat × Int :=
  let (whole, taken) := accumulate 0 n.whole
  let (all, places) := accumulate whole n.fraction
  (all, ((n.whole.length - taken : Nat) : Int) - places)

/-- The largest exponent whose power of ten is a floating-point number. -/
def maxPower : Nat := 308

/-- The floating-point number nearest to a power of ten. -/
def powerOfTen? (power : Nat) : Option Binary64 :=
  Binary64.ofRatio? (Nat.pow 10 power) 1

/-- Divides by the largest power of ten as often as asked and then by a smaller one. Zero stays. -/
def divideByTen? (last : Nat) : Nat → Binary64 → Option Binary64
  | 0, x => (powerOfTen? last).bind x.div?
  | steps + 1, x =>
    if x.mantissa = 0 then some x
    else ((powerOfTen? maxPower).bind x.div?).bind (divideByTen? last steps)

/-- The floating-point number taken for a significand and a power of ten. -/
def scaled? (significand : Nat) (power : Int) : Option Binary64 := do
  let x ← Binary64.ofRatio? significand 1
  if x.mantissa = 0 then some x
  else if power < 0 then
    let steps := ((-power).toNat - 1) / maxPower
    divideByTen? ((-power).toNat - steps * maxPower) steps x
  else if power.toNat ≤ maxPower then (powerOfTen? power.toNat).bind x.mul?
  else none

/-- The floating-point number taken for a literal, without its sign. There is none where it is too
large. An exponent beyond 31 bits leaves zero or nothing. -/
def approximate? (n : Numeral) : Option Binary64 :=
  let (significand, power) := n.significand
  match n.exponent with
  | none => scaled? significand power
  | some (negative, digits) =>
    let exponent := digitsValue digits
    if exponent < 1 <<< 31 then
      scaled? significand (if negative then power - exponent else power + exponent)
    else if significand = 0 ∨ negative then some .zero
    else none

end Numeral

end PriceHistory.Json
