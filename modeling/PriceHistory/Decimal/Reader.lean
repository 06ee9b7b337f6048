import PriceHistory.Decimal.Basic

/-!
Reading decimals: a sign, digits with one point at most and `_` between them, and an optional power
of ten. Digits that do not fit are rounded away, a half away from zero.
-/
namespace PriceHistory

open PriceHistory.Text

namespace Decimal

/-- Why a text is no decimal. -/
inductive ReadError where
  | empty
  | unknownCharacter
  | secondPoint
  | leadingSeparator
  | noDigits
  | tooManyDigits
  | roundedTooLarge
  | badExponent
  | exponentTooLarge (exponent : Nat)
  | valueTooLarge
  deriving DecidableEq

/-- The wording of each cause. -/
def ReadError.message : ReadError → String
  | empty => "Invalid decimal: empty"
  | unknownCharacter => "Invalid decimal: unknown character"
  | secondPoint => "Invalid decimal: two decimal points"
  | leadingSeparator => "Invalid decimal: must start lead with a number"
  | noDigits => "Invalid decimal: no digits found"
  | tooManyDigits => "Invalid decimal: overflow from too many digits"
  | roundedTooLarge => "Invalid decimal: overflow from mantissa after rounding"
  | badExponent => "Failed to parse"
  | exponentTooLarge exponent =>
    "Scale exceeds the maximum precision allowed: " ++ toString exponent ++ " > " ++ toString maxScale
  | valueTooLarge => "Number exceeds maximum value that can be represented."

end Decimal

open PriceHistory.Decimal

namespace Magnitude

/-- One more unit in the last place. Where that no longer fits, the last place is given up, and a
magnitude that has none cannot be rounded. -/
def roundUp (m : Magnitude) : Except ReadError Magnitude :=
  if h : m.coefficient + 1 < coefficientLimit then .ok ⟨m.coefficient + 1, m.scale, h, m.scale_le⟩
  else if m.scale = 0 then .error .roundedTooLarge
  else .ok ⟨(m.coefficient + 5) / 10, m.scale - 1,
    by have := m.fits; simp only [coefficientLimit] at *; omega,
    by have := m.scale_le; omega⟩

/-- The magnitude with `places` places at most, a half rounded up. -/
def withPlaces (places : Nat) (m : Magnitude) : Magnitude :=
  if h : m.scale ≤ places then m
  else
    ⟨(m.coefficient / Nat.pow 10 (m.scale - places - 1) + 5) / 10, places, by
      have := m.fits
      have := Nat.div_le_self m.coefficient (Nat.pow 10 (m.scale - places - 1))
      simp only [coefficientLimit] at *
      omega, by have := m.scale_le; omega⟩

/-- Moves the point to the left. Places that do not fit are rounded away. -/
def shiftDown (m : Magnitude) (exponent : Nat) : Except ReadError Magnitude :=
  if h : exponent ≤ maxScale then
    .ok ⟨(m.withPlaces (maxScale - exponent)).coefficient,
      (m.withPlaces (maxScale - exponent)).scale + exponent,
      (m.withPlaces (maxScale - exponent)).fits, by
        unfold withPlaces
        split
        · omega
        · dsimp only; omega⟩
  else .error (.exponentTooLarge exponent)

/-- Moves the point to the right. -/
def shiftUp (m : Magnitude) (exponent : Nat) : Except ReadError Magnitude :=
  if exponent ≤ m.scale then .ok ⟨m.coefficient, m.scale - exponent, m.fits, by
    have := m.scale_le; omega⟩
  else if maxScale < exponent then .error (.exponentTooLarge exponent)
  else if h : m.coefficient * Nat.pow 10 (exponent - m.scale) < coefficientLimit then
    .ok ⟨m.coefficient * Nat.pow 10 (exponent - m.scale), 0, h, Nat.zero_le maxScale⟩
  else .error .valueTooLarge

end Magnitude

namespace Decimal

/-- Checks what stands after the digit that decides the rounding: digits and separators only. -/
def checkDropped : List Char → Except ReadError Unit
  | [] => .ok ()
  | c :: rest =>
    if c.isDigit || c == '_' then checkDropped rest
    else .error (if c = '.' then .secondPoint else .unknownCharacter)

/-- Coefficients below this bound, with a digit appended to them, are still short. -/
def shortLimit : Nat := ((1 <<< 64) - 1) / 10 - 255

/-- Are the digits read so far few enough for a separator after them to end the number? -/
def isShort (m : Magnitude) : Bool :=
  m.coefficient / 10 < shortLimit

/-- Rounds on the first digit that no longer fits, and drops it with the rest. A separator in its
place stands for a zero after a short coefficient, and is passed over after a long one. -/
def roundAt (m : Magnitude) : List Char → Except ReadError Magnitude
  | [] => .ok m
  | c :: rest =>
    if c.isDigit then do
      let rounded ← if 5 ≤ digitsValue [c] then m.roundUp else .ok m
      checkDropped rest
      return rounded
    else if c = '_' then
      if isShort m then (checkDropped rest).map fun _ => m else roundAt m rest
    else .error (if c = '.' then .secondPoint else .unknownCharacter)

/-- Reads digits, with `m` read so far. `point` says that the point has been read, `started` that a
digit has. -/
def readDigits (point started : Bool) (m : Magnitude) : List Char → Except ReadError Magnitude
  | [] => if started then .ok m else .error .noDigits
  | c :: rest =>
    if full : point = true ∧ m.scale = maxScale then roundAt m (c :: rest)
    else if c.isDigit then
      let digits := m.coefficient * 10 + digitsValue [c]
      if h : digits < coefficientLimit then
        readDigits point true ⟨digits, if point then m.scale + 1 else m.scale, h, by
          have := m.scale_le
          split
          next pointed => simp only [pointed, true_and] at full; omega
          · exact m.scale_le⟩ rest
      else if point then roundAt m (c :: rest)
      else .error .tooManyDigits
    else if c = '.' then
      if point then .error .secondPoint else readDigits true started m rest
    else if c = '_' then
      if started then readDigits point started m rest else .error .leadingSeparator
    else .error .unknownCharacter

/-- Reads a sign and digits. -/
def readPlain (cs : List Char) : Except ReadError (Bool × Magnitude) :=
  match cs with
  | [] => .error .empty
  | '-' :: rest => (readDigits false false .zero rest).map fun m => (true, m)
  | '+' :: rest => (readDigits false false .zero rest).map fun m => (false, m)
  | cs => (readDigits false false .zero cs).map fun m => (false, m)

/-- Reads a power of ten: digits, perhaps after a plus, below `1 <<< 32`. -/
def readExponent (cs : List Char) : Except ReadError Nat :=
  let digits := match cs with
    | '+' :: rest => rest
    | cs => cs
  if digits ≠ [] ∧ digits.all Char.isDigit ∧ digitsValue digits < 1 <<< 32 then
    .ok (digitsValue digits)
  else .error .badExponent

/-- Is this the letter before a power of ten? -/
def isExponentLetter (c : Char) : Bool :=
  c == 'e' || c == 'E'

/-- Reads digits and a power of ten, parted at the first exponent letter. -/
def readScientific (cs : List Char) : Except ReadError Decimal := do
  let (negative, base) ← readPlain (cs.takeWhile fun c => !isExponentLetter c)
  match (cs.dropWhile fun c => !isExponentLetter c).drop 1 with
  | '-' :: exponent => do
    let shifted ← base.shiftDown (← readExponent exponent)
    return ⟨shifted, negative && base.coefficient != 0⟩
  | exponent => do
    let shifted ← base.shiftUp (← readExponent exponent)
    return shifted.signed negative

/-- Reads a decimal: as plain digits, or with a power of ten where it has an exponent letter. -/
def ofText? (s : String) : Except ReadError Decimal :=
  match readPlain s.toList with
  | .ok (negative, m) => .ok (m.signed negative)
  | .error e => if s.toList.any isExponentLetter then readScientific s.toList else .error e

end Decimal

end PriceHistory
