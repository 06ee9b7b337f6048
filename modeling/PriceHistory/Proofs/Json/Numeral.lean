import PriceHistory.Json.Numeral
import PriceHistory.Proofs.Binary64.Shortest

/-!
What number literals stand for, and when the floating-point number taken for one still tells what it was:
for a literal of up to fifteen digits that is not far from one, the shortest decimal of that number has
the literal's value.
-/
namespace PriceHistory.Json.Numeral

open PriceHistory.Text

/-- The digits of a literal, without its point. -/
def digits (n : Numeral) : List Char :=
  n.whole ++ n.fraction

/-- The power of ten that a literal is given with. -/
def givenPower (n : Numeral) : ℤ :=
  match n.exponent with
  | none => 0
  | some (true, ds) => -(digitsValue ds : ℤ)
  | some (false, ds) => digitsValue ds

/-- The power of ten that the last digit of a literal counts. -/
def power (n : Numeral) : ℤ :=
  n.givenPower - n.fraction.length

/-- The number that a literal stands for, without its sign. -/
def magnitude (n : Numeral) : ℚ :=
  digitsValue n.digits * 10 ^ n.power

/-- The number that a literal stands for. -/
def value (n : Numeral) : ℚ :=
  if n.negative then -n.magnitude else n.magnitude

/-- Is this a literal that a document can have? It has a whole part, an exponent is not empty, and both
consist of digits. -/
structure Formed (n : Numeral) : Prop where
  digits : ∀ c ∈ n.digits, c.isDigit = true
  whole : n.whole ≠ []
  exponent : ∀ given ∈ n.exponent, given.2 ≠ [] ∧ ∀ c ∈ given.2, c.isDigit = true

/-- Has the literal up to fifteen digits, zeros in front aside, and does the last of them count a power of
ten that is not far from one? -/
structure Short (n : Numeral) : Prop where
  digits : digitsValue n.digits < 10 ^ 15
  power : -22 ≤ n.power ∧ n.power ≤ 22
  exponent : ∀ given ∈ n.exponent, digitsValue given.2 < 1 <<< 31

variable {n : Numeral}

theorem abs_value (n : Numeral) : |n.value| = n.magnitude := by
  have nonneg : 0 ≤ n.magnitude := mul_nonneg (Nat.cast_nonneg _) (zpow_nonneg (by norm_num) _)
  unfold value
  split
  · rw [abs_neg, abs_of_nonneg nonneg]
  · exact abs_of_nonneg nonneg

theorem value_of_integer? {i : ℤ} (found : n.integer? = some i) : n.value = i := by
  obtain ⟨negative, whole, fraction, exponent⟩ := n
  unfold integer? at found
  obtain ⟨⟨rfl, rfl⟩, found⟩ := Option.ite_none_right_eq_some.mp found
  have magnitude : (Numeral.mk negative whole [] none).magnitude = digitsValue whole := by
    simp [Numeral.magnitude, digits, power, givenPower]
  rw [value, magnitude]
  cases negative with
  | true =>
    obtain ⟨_, made⟩ := Option.ite_none_right_eq_some.mp found
    cases made
    rw [if_pos rfl, Int.cast_neg, Int.cast_natCast]
  | false =>
    obtain ⟨_, made⟩ := Option.ite_none_right_eq_some.mp found
    cases made
    rw [if_neg Bool.false_ne_true, Int.cast_natCast]

theorem natAbs_of_integer? {i : ℤ} (found : n.integer? = some i) : i.natAbs < 1 <<< 64 := by
  unfold integer? at found
  obtain ⟨-, found⟩ := Option.ite_none_right_eq_some.mp found
  dsimp only at found
  split at found
  · obtain ⟨bounds, made⟩ := Option.ite_none_right_eq_some.mp found
    cases made
    simp only [Nat.one_shiftLeft] at bounds ⊢
    omega
  · obtain ⟨bounds, made⟩ := Option.ite_none_right_eq_some.mp found
    cases made
    rwa [Int.natAbs_natCast]

/-! ### Significands -/

/-- Digits that keep within 64 bits are all added. -/
theorem accumulate_eq {ds : List Char} {significand : ℕ}
    (room : significand * 10 ^ ds.length + digitsValue ds < 1 <<< 64) :
    accumulate significand ds = (significand * 10 ^ ds.length + digitsValue ds, ds.length) := by
  induction ds generalizing significand with
  | nil => simp [accumulate, digitsValue]
  | cons d ds ih =>
    have step : significand * 10 ^ (d :: ds).length + digitsValue (d :: ds) =
        (10 * significand + digitsValue [d]) * 10 ^ ds.length + digitsValue ds := by
      rw [← List.singleton_append, digitsValue_append, List.singleton_append, List.length_cons, pow_succ]
      ring
    rw [step] at room ⊢
    have next : 10 * significand + digitsValue [d] < 1 <<< 64 := by
      have := Nat.le_mul_of_pos_right (10 * significand + digitsValue [d])
        (Nat.pow_pos (n := ds.length) (show 0 < 10 by decide))
      omega
    rw [accumulate]
    dsimp only
    rw [if_pos next, ih room]
    rfl

/-- The significand of a literal of few digits is made up of all of them. -/
theorem significand_eq (few : digitsValue n.digits < 1 <<< 64) :
    n.significand = (digitsValue n.digits, -(n.fraction.length : ℤ)) := by
  rw [digits, digitsValue_append] at few ⊢
  have whole : digitsValue n.whole < 1 <<< 64 := by
    have := Nat.le_mul_of_pos_right (digitsValue n.whole)
      (Nat.pow_pos (n := n.fraction.length) (show 0 < 10 by decide))
    omega
  have first : accumulate 0 n.whole = (digitsValue n.whole, n.whole.length) := by
    rw [accumulate_eq] <;> rw [Nat.zero_mul, Nat.zero_add]
    exact whole
  simp [significand, first, accumulate_eq few]

/-! ### Floating-point numbers -/

theorem exists_powerOfTen? {k : ℕ} (moderate : k ≤ 22) :
    ∃ y, powerOfTen? k = some y ∧ y.value = 10 ^ k := by
  -- A power of ten is a power of five, which has few bits up to here, beside a power of two.
  have bits : 5 ^ k < 2 ^ 53 := lt_of_le_of_lt (Nat.pow_le_pow_right (by decide) moderate) (by decide)
  obtain ⟨y, found, value⟩ := Binary64.exists_ofRatio?_whole (b := k) (by positivity) bits (by omega)
  refine ⟨y, ?_, ?_⟩
  · rw [powerOfTen?, ← found, ← Nat.mul_pow]
    rfl
  · rw [value]
    push_cast
    rw [← mul_pow]
    norm_num

/-- The shortest decimal of the number taken for a significand of up to fifteen digits and a power of ten
not far from one is that decimal. -/
theorem exists_scaled? {a : ℕ} {k : ℤ} (short : a < 10 ^ 15) (near : -22 ≤ k ∧ k ≤ 22) :
    ∃ x, scaled? a k = some x ∧
      ((Binary64.shortest x).1 * 10 ^ (Binary64.shortest x).2 : ℚ) = a * 10 ^ k := by
  rcases Nat.eq_zero_or_pos a with rfl | positive
  · refine ⟨.zero, rfl, ?_⟩
    rw [Nat.cast_zero, zero_mul]
    exact zero_mul _
  · obtain ⟨x, exact, value⟩ := Binary64.exists_ofRatio?_whole (b := 0) positive (by omega) (by decide)
    rw [pow_zero, mul_one] at exact value
    have above : 0 < x.value := by
      rw [value]
      exact_mod_cast positive
    have some : x.mantissa ≠ 0 := by
      intro zero
      rw [Binary64.value, zero, Nat.cast_zero, zero_mul] at above
      exact lt_irrefl _ above
    -- Both the significand and the power of ten are exact, so there is one rounding only.
    obtain ⟨y, power, powerValue⟩ := exists_powerOfTen? (show k.natAbs ≤ 22 by omega)
    have below : 0 < y.value := by
      rw [powerValue]
      positivity
    simp only [scaled?, exact, Option.bind_eq_bind, Option.bind_some, if_neg some]
    by_cases negative : k < 0
    · have once : (-k).toNat - ((-k).toNat - 1) / maxPower * maxPower = k.natAbs ∧
          ((-k).toNat - 1) / maxPower = 0 := by
        unfold maxPower
        omega
      rw [if_pos negative, once.1, once.2, divideByTen?, power, Option.bind_some]
      obtain ⟨n, d, quotient, numerator, denominator, ratio⟩ := Binary64.exists_div?_eq above below
      rw [quotient]
      apply Binary64.exists_ofRatio?_of_short numerator denominator short near
      rw [ratio, value, powerValue, div_eq_mul_inv, ← zpow_natCast, ← zpow_neg]
      congr 2
      omega
    · have least : k.toNat = k.natAbs := by omega
      rw [if_neg negative, least, if_pos (by unfold maxPower; omega), power, Option.bind_some]
      obtain ⟨n, d, product, numerator, denominator, ratio⟩ := Binary64.exists_mul?_eq above below
      rw [product]
      apply Binary64.exists_ofRatio?_of_short numerator denominator short near
      rw [ratio, value, powerValue, ← zpow_natCast]
      congr 2
      omega

/-- A short literal is taken for a number whose shortest decimal it is. -/
theorem exists_approximate? (short : n.Short) :
    ∃ x, n.approximate? = some x ∧
      ((Binary64.shortest x).1 * 10 ^ (Binary64.shortest x).2 : ℚ) = n.magnitude := by
  have few : digitsValue n.digits < 1 <<< 64 := lt_trans short.digits (by decide)
  obtain ⟨x, found, value⟩ := exists_scaled? short.digits short.power
  refine ⟨x, ?_, value⟩
  rw [← found, approximate?, significand_eq few]
  have given := short.exponent
  dsimp only
  rw [power, givenPower]
  cases exponent : n.exponent with
  | none => rw [zero_sub]
  | some given' =>
    obtain ⟨negative, ds⟩ := given'
    have bits := given _ exponent
    dsimp only at bits ⊢
    rw [if_pos bits]
    cases negative with
    | true =>
      rw [if_pos rfl]
      congr 1
      dsimp only
      omega
    | false =>
      rw [if_neg Bool.false_ne_true]
      congr 1
      dsimp only
      omega

end PriceHistory.Json.Numeral
