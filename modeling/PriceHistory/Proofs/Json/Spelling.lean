import Mathlib.Tactic.IntervalCases
import PriceHistory.Json.Document
import PriceHistory.Proofs.Decimal.Scientific
import PriceHistory.Proofs.Json.Numeral

/-!
Number literals as documents have them, and their text read as that of a decimal.
-/
namespace PriceHistory.Json

open PriceHistory.Text PriceHistory.Decimal

namespace Numeral

variable {n : Numeral}

/-- How an exponent is written, after a letter and perhaps with a plus. -/
def exponentChars (letter : Char) (plus : Bool) : Option (Bool × List Char) → List Char
  | none => []
  | some (true, ds) => letter :: '-' :: ds
  | some (false, ds) => letter :: if plus then '+' :: ds else ds

/-- The text of a literal. It does not tell the two letters of an exponent apart, nor whether a plus is
written. -/
def text (letter : Char) (plus : Bool) (n : Numeral) : String :=
  String.ofList (signed n.negative (parted n.whole n.fraction) ++ exponentChars letter plus n.exponent)

/-- Can the text of a literal be read without rounding on the way? It can if there is no exponent; else
the digits alone have to make up a decimal, and the exponent must not exceed the places of one. -/
def Legible (n : Numeral) : Prop :=
  ∀ given ∈ n.exponent, digitsValue given.2 ≤ maxScale ∧
    Has (digitsValue n.digits / 10 ^ n.fraction.length)

theorem magnitude_eq (n : Numeral) :
    n.magnitude = digitsValue n.digits / 10 ^ n.fraction.length * 10 ^ n.givenPower := by
  rw [magnitude, power, zpow_sub₀ (by norm_num), zpow_natCast]
  ring

/-- The text of a literal whose value some decimal has is read as a decimal of that value. -/
theorem exists_ofText?_text (formed : n.Formed) (legible : n.Legible) (has : Has n.value) {letter : Char}
    (marks : isExponentLetter letter = true) (plus : Bool) :
    ∃ d, ofText? (n.text letter plus) = .ok d ∧ d.value = n.value := by
  have frontDigits : ∀ c ∈ n.whole, c.isDigit = true := fun c member =>
    formed.digits c (List.mem_append_left _ member)
  have backDigits : ∀ c ∈ n.fraction, c.isDigit = true := fun c member =>
    formed.digits c (List.mem_append_right _ member)
  have has := has_abs has
  rw [abs_value, magnitude_eq, givenPower] at has
  rw [value, magnitude_eq, givenPower, text]
  cases given : n.exponent with
  | none =>
    rw [given, zpow_zero, mul_one] at has
    rw [exponentChars, List.append_nil, zpow_zero, mul_one]
    exact ofText?_of_has frontDigits backDigits formed.whole has n.negative
  | some exponent =>
    obtain ⟨below, ds⟩ := exponent
    obtain ⟨nonempty, digits⟩ := formed.exponent _ given
    obtain ⟨moderate, base⟩ := legible _ given
    obtain ⟨m, read, value⟩ := readPlain_of_has frontDigits backDigits formed.whole base n.negative
    have together : (digitsValue n.digits / 10 ^ n.fraction.length : ℚ) = m.value := value.symm
    rw [given, together] at has
    rw [together]
    cases below with
    | true =>
      dsimp only at has ⊢
      rw [zpow_neg, zpow_natCast, ← div_eq_mul_inv] at has ⊢
      exact ofText?_below_of_has marks read digits nonempty moderate has
    | false =>
      dsimp only at has ⊢
      rw [zpow_natCast] at has ⊢
      exact ofText?_above_of_has marks read digits nonempty moderate has plus

end Numeral

/-! ### Reading literals -/

theorem isDigit_of_isDigitByte {b : UInt8} (digit : isDigitByte b = true) :
    (Char.ofNat b.toNat).isDigit = true := by
  simp only [isDigitByte, Bool.and_eq_true, decide_eq_true_eq, UInt8.le_iff_toNat_le] at digit
  obtain ⟨least, most⟩ : 48 ≤ b.toNat ∧ b.toNat ≤ 57 := digit
  generalize b.toNat = code at least most
  interval_cases code <;> rfl

/-- What is read as digits consists of digits. -/
theorem isDigit_of_digits {bs rest : Bytes} {ds : List Char} (read : digits bs = (ds, rest)) :
    ∀ c ∈ ds, c.isDigit = true := by
  cases read
  intro c member
  obtain ⟨b, among, rfl⟩ := List.mem_map.mp member
  exact isDigit_of_isDigitByte (List.all_eq_true.mp List.all_takeWhile b among)

theorem isDigit_of_readWhole {bs rest : Bytes} {whole : List Char}
    (read : readWhole bs = some (whole, rest)) : whole ≠ [] ∧ ∀ c ∈ whole, c.isDigit = true := by
  unfold readWhole at read
  split at read
  · cases read
  · cases read
  next nonempty _ =>
    have found := Option.some.inj read
    refine ⟨?_, isDigit_of_digits found⟩
    rintro rfl
    exact nonempty _ found

theorem isDigit_of_readFraction {bs rest : Bytes} {fraction : List Char}
    (read : readFraction bs = some (fraction, rest)) : ∀ c ∈ fraction, c.isDigit = true := by
  unfold readFraction at read
  split at read
  · cases read
    simp
  · split at read
    · cases read
    · exact isDigit_of_digits (Option.some.inj read)

theorem isDigit_of_readExponent {bs rest : Bytes} {exponent : Option (Bool × List Char)}
    (read : readExponent bs = some (exponent, rest)) :
    ∀ given ∈ exponent, given.2 ≠ [] ∧ ∀ c ∈ given.2, c.isDigit = true := by
  unfold readExponent at read
  split at read
  · cases read
    simp
  · dsimp only at read
    split at read
    · cases read
    next nonempty found =>
      cases read
      intro given same
      cases same
      refine ⟨?_, isDigit_of_digits found⟩
      rintro rfl
      exact nonempty rfl

/-- Every literal that is read is well formed. -/
theorem formed_of_readNumber {bs rest : Bytes} {n : Numeral} (read : readNumber bs = some (n, rest)) :
    n.Formed := by
  simp only [readNumber, Option.bind_eq_bind, Option.pure_def, Option.bind_eq_some_iff] at read
  obtain ⟨⟨whole, later⟩, readWhole, ⟨fraction, later'⟩, readFraction, ⟨exponent, later''⟩, readExponent,
    made⟩ := read
  cases made
  obtain ⟨nonempty, front⟩ := isDigit_of_readWhole readWhole
  have back := isDigit_of_readFraction readFraction
  exact ⟨fun c member => (List.mem_append.mp member).elim (front c) (back c), nonempty,
    isDigit_of_readExponent readExponent⟩

end PriceHistory.Json
