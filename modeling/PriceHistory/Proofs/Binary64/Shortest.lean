import PriceHistory.Binary64.Shortest
import PriceHistory.Proofs.Binary64.Rounding
import PriceHistory.Proofs.Text.Digits

/-!
The shortest decimal of a floating-point number. A number with a mantissa of 53 bits has at most one
decimal of up to fifteen digits in its cell, and where there is one the search ends with its value.
-/
namespace PriceHistory.Binary64

open PriceHistory.Text

variable {x : Binary64}

/-! ### Grids -/

theorem powerOfTen_pos (k : ℤ) : 0 < (powerOfTen k).1 ∧ 0 < (powerOfTen k).2 := by
  unfold powerOfTen
  split
  · exact ⟨Nat.pow_pos (by decide), Nat.one_pos⟩
  · exact ⟨Nat.one_pos, Nat.pow_pos (by decide)⟩

theorem powerOfTen_eq (k : ℤ) : ((powerOfTen k).1 / (powerOfTen k).2 : ℚ) = 10 ^ k := by
  unfold powerOfTen
  split
  next nonneg =>
    rw [Nat.cast_one, div_one, Nat.pow_eq, Nat.cast_pow, ← zpow_natCast, Int.toNat_of_nonneg nonneg,
      Nat.cast_ofNat]
  next negative =>
    rw [Nat.cast_one, Nat.pow_eq, Nat.cast_pow, ← zpow_natCast, Int.toNat_of_nonneg (by omega), zpow_neg,
      one_div, inv_inv, Nat.cast_ofNat]

theorem grid_eq (m : ℕ) (k : ℤ) :
    ((m * (powerOfTen k).1 : ℕ) / (powerOfTen k).2 : ℚ) = m * 10 ^ k := by
  rw [Nat.cast_mul, mul_div_assoc, powerOfTen_eq]

/-! ### The interval of a number -/

theorem denominator_pos (x : Binary64) : 0 < (interval x).denominator := by
  have := ratio_pos ⟨1, x.exponent⟩
  simp only [interval]
  omega

/-- Quarters of the last bit, in which the interval counts. -/
theorem quarters_eq (count : ℕ) (e : ℤ) :
    ((count * (ratio ⟨1, e⟩).1 : ℕ) / (4 * (ratio ⟨1, e⟩).2 : ℕ) : ℚ) = count / 4 * 2 ^ e := by
  have unit := ratio_eq ⟨1, e⟩
  rw [value, Nat.cast_one, one_mul] at unit
  rw [Nat.cast_mul, Nat.cast_mul, mul_div_mul_comm, unit, Nat.cast_ofNat]

theorem interval_value (x : Binary64) :
    ((interval x).value / (interval x).denominator : ℚ) = x.value := by
  refine (quarters_eq (4 * x.mantissa) x.exponent).trans ?_
  rw [value]
  push_cast
  ring

theorem interval_high (x : Binary64) :
    ((interval x).high / (interval x).denominator : ℚ) = x.high := by
  refine (quarters_eq (4 * x.mantissa + 2) x.exponent).trans ?_
  rw [high]
  push_cast
  ring

theorem interval_low (positive : 0 < x.mantissa) :
    ((interval x).low / (interval x).denominator : ℚ) = x.low := by
  refine (quarters_eq (if x.mantissa = 1 <<< (mantissaBits - 1) ∧ minExponent < x.exponent then
    4 * x.mantissa - 1 else 4 * x.mantissa - 2) x.exponent).trans ?_
  rw [low]
  split <;> rw [Nat.cast_sub (by omega)] <;> push_cast <;> ring

/-- A ratio lies in the interval of a number exactly if it is in its cell. -/
theorem holds_interval_iff (positive : 0 < x.mantissa) {n d : ℕ} (below : 0 < d) :
    (interval x).holds n d = true ↔ (n / d : ℚ) ∈ x.cell := by
  have divisor : (0 : ℚ) < d := by exact_mod_cast below
  have unit : (0 : ℚ) < (interval x).denominator := by exact_mod_cast denominator_pos x
  have closed : (interval x).closed = decide (x.mantissa % 2 = 0) := rfl
  rw [cell, between, ← interval_low positive, ← interval_high, Interval.holds, closed]
  by_cases even : x.mantissa % 2 = 0
  · rw [if_pos even, if_pos (decide_eq_true even), Set.mem_Icc, div_le_div_iff₀ unit divisor,
      div_le_div_iff₀ divisor unit, Bool.and_eq_true, decide_eq_true_eq, decide_eq_true_eq]
    exact_mod_cast Iff.rfl
  · rw [if_neg even, if_neg (by simpa using even), Set.mem_Ioo, div_lt_div_iff₀ unit divisor,
      div_lt_div_iff₀ divisor unit, Bool.and_eq_true, decide_eq_true_eq, decide_eq_true_eq]
    exact_mod_cast Iff.rfl

/-- What lies between a number and a member of its cell is in the cell. -/
theorem mem_cell_of_between {q r : ℚ} (member : q ∈ x.cell)
    (inside : q ≤ r ∧ r ≤ x.value ∨ x.value ≤ r ∧ r ≤ q) : r ∈ x.cell := by
  have unit : (0 : ℚ) < 2 ^ x.exponent := zpow_pos two_pos _
  have inner : x.low < x.value ∧ x.value < x.high := by
    rw [low, value, high]
    constructor
    · apply mul_lt_mul_of_pos_right _ unit
      split <;> linarith
    · apply mul_lt_mul_of_pos_right _ unit
      linarith
  rw [cell, mem_between] at member ⊢
  obtain ⟨⟨lower, upper⟩, strict⟩ := member
  rcases inside with ⟨left, right⟩ | ⟨left, right⟩
  · refine ⟨⟨by linarith, by linarith⟩, fun odd => ⟨?_, by linarith⟩⟩
    linarith [(strict odd).1]
  · refine ⟨⟨by linarith, by linarith⟩, fun odd => ⟨by linarith, ?_⟩⟩
    linarith [(strict odd).2]

/-! ### The search -/

theorem grid_mem_cell_of_onGrid? (positive : 0 < x.mantissa) {k : ℤ} {m : ℕ}
    (found : onGrid? (interval x) k = some m) : (m * 10 ^ k : ℚ) ∈ x.cell := by
  rw [← grid_eq, ← holds_interval_iff positive (powerOfTen_pos k).2]
  unfold onGrid? at found
  dsimp only at found
  split at found
  next below above =>
    cases found
    split
    · exact below
    · exact above
  next below _ =>
    cases found
    exact below
  next _ above =>
    cases found
    exact above
  · cases found

/-- A grid with a multiple in the cell has one beside the number itself. -/
theorem exists_onGrid? (positive : 0 < x.mantissa) {k : ℤ} {a : ℕ} (member : (a * 10 ^ k : ℚ) ∈ x.cell) :
    ∃ m, onGrid? (interval x) k = some m := by
  set below := (interval x).value * (powerOfTen k).2 / ((interval x).denominator * (powerOfTen k).1)
    with beneath
  have unit : (0 : ℚ) < 10 ^ k := zpow_pos (by norm_num) k
  -- The number itself lies between two neighbours on the grid.
  have floor : (below * 10 ^ k : ℚ) ≤ x.value ∧ x.value < (below + 1) * 10 ^ k := by
    have step : 0 < (interval x).denominator * (powerOfTen k).1 :=
      Nat.mul_pos (denominator_pos x) (powerOfTen_pos k).1
    have ratio : (((interval x).value * (powerOfTen k).2 : ℕ) /
        ((interval x).denominator * (powerOfTen k).1 : ℕ) : ℚ) = x.value / 10 ^ k := by
      rw [← interval_value, ← powerOfTen_eq, Nat.cast_mul, Nat.cast_mul]
      have := (powerOfTen_pos k).2
      field_simp
    rw [← le_div_iff₀ unit, ← div_lt_iff₀ unit, ← ratio, le_div_iff₀ (by exact_mod_cast step),
      div_lt_iff₀ (by exact_mod_cast step)]
    constructor
    · exact_mod_cast Nat.div_mul_le_self _ _
    · exact_mod_cast Nat.lt_mul_of_div_lt (Nat.lt_succ_self _) step
  have inside : (interval x).holds (below * (powerOfTen k).1) (powerOfTen k).2 = true ∨
      (interval x).holds ((below + 1) * (powerOfTen k).1) (powerOfTen k).2 = true := by
    simp only [holds_interval_iff positive (powerOfTen_pos k).2, grid_eq]
    -- Of the two neighbours, the one on the side of the multiple is between it and the number.
    rcases Nat.lt_or_ge below a with above | beneath
    · refine .inr (mem_cell_of_between member (.inr ⟨by push_cast; exact floor.2.le, ?_⟩))
      have : ((below + 1 : ℕ) : ℚ) ≤ a := by exact_mod_cast above
      exact mul_le_mul_of_nonneg_right this unit.le
    · refine .inl (mem_cell_of_between member (.inl ⟨?_, floor.1⟩))
      have : (a : ℚ) ≤ below := by exact_mod_cast beneath
      exact mul_le_mul_of_nonneg_right this unit.le
  unfold onGrid?
  dsimp only
  rw [← beneath]
  rcases inside with found | found <;> rw [found] <;> split <;> simp_all

/-- The search ends on the coarsest grid that has a multiple in the cell, if it starts above it and takes
enough steps. -/
theorem exists_search (positive : 0 < x.mantissa) {k : ℤ} {a : ℕ} (member : (a * 10 ^ k : ℚ) ∈ x.cell)
    {steps : ℕ} {start : ℤ} (starts : k ≤ start) (reaches : start < k + steps) :
    ∃ m p, search (interval x) steps start = some (m, p) ∧ k ≤ p ∧ (m * 10 ^ p : ℚ) ∈ x.cell := by
  induction steps generalizing start with
  | zero =>
    rw [Nat.cast_zero, add_zero] at reaches
    omega
  | succ steps ih =>
    rw [search]
    cases found : onGrid? (interval x) start with
    | some m => exact ⟨m, start, rfl, starts, grid_mem_cell_of_onGrid? positive found⟩
    | none =>
      -- The grid of the multiple itself would not have been passed over.
      have finer : start ≠ k := by
        rintro rfl
        obtain ⟨m, some⟩ := exists_onGrid? positive member
        rw [found] at some
        cases some
      push_cast at reaches
      exact ih (by omega) (by omega)

/-! ### The start of the search -/

/-- The digits of the whole part of a ratio tell between which powers of ten it lies. -/
theorem zpow_length_toDigits {n d : ℕ} (below : 0 < d) (large : d ≤ n) :
    (10 ^ ((Nat.toDigits 10 (n / d)).length - 1 : ℤ) : ℚ) ≤ n / d ∧
      (n / d : ℚ) < 10 ^ ((Nat.toDigits 10 (n / d)).length : ℤ) := by
  have divisor : (0 : ℚ) < d := by exact_mod_cast below
  have some : 0 < (Nat.toDigits 10 (n / d)).length := List.length_pos_iff.mpr Nat.toDigits_ne_nil
  have upper := (Nat.length_toDigits_le_iff (by decide) some).mp (Nat.le_refl _)
  have lower : 10 ^ ((Nat.toDigits 10 (n / d)).length - 1) ≤ n / d := by
    by_contra fewer
    rcases Nat.eq_zero_or_pos ((Nat.toDigits 10 (n / d)).length - 1) with one | more
    · rw [one] at fewer
      have := Nat.div_pos large below
      omega
    · have := (Nat.length_toDigits_le_iff (by decide) more).mpr (Nat.lt_of_not_le fewer)
      omega
  rw [Nat.le_div_iff_mul_le below] at lower
  rw [Nat.div_lt_iff_lt_mul below] at upper
  rw [← Nat.cast_pred some, zpow_natCast, zpow_natCast, le_div_iff₀ divisor, div_lt_iff₀ divisor]
  exact ⟨by exact_mod_cast lower, by exact_mod_cast upper⟩

/-- The search starts at a power of ten that is no smaller than the number, and at most ten times as
large. -/
theorem magnitude_spec (positive : 0 < x.mantissa) :
    (10 ^ (magnitude (interval x) - 1) : ℚ) ≤ x.value ∧ x.value ≤ 10 ^ magnitude (interval x) := by
  have below := denominator_pos x
  have above : 0 < (interval x).value := by
    have large : 0 < x.value := mul_pos (by exact_mod_cast positive) (zpow_pos two_pos _)
    by_contra none
    rw [← interval_value, Nat.eq_zero_of_not_pos none, Nat.cast_zero, zero_div] at large
    exact lt_irrefl _ large
  rw [← interval_value, magnitude]
  by_cases whole : (interval x).value / (interval x).denominator = 0
  · -- Below one it is the reciprocal whose digits are counted.
    have smaller := (Nat.div_eq_zero_iff_lt below).mp whole
    obtain ⟨lower, upper⟩ := zpow_length_toDigits above smaller.le
    rw [if_neg (not_not.mpr whole), ← inv_div]
    constructor
    · rw [sub_sub_cancel_left, zpow_neg]
      exact inv_anti₀ (lt_of_lt_of_le (zpow_pos (by norm_num) _) lower) upper.le
    · rw [← neg_sub, zpow_neg]
      exact inv_anti₀ (zpow_pos (by norm_num) _) lower
  · have large := Nat.le_of_not_lt fun smaller => whole (Nat.div_eq_of_lt smaller)
    obtain ⟨lower, upper⟩ := zpow_length_toDigits below large
    rw [if_pos whole]
    exact ⟨lower, upper.le⟩

/-! ### Short decimals -/

/-- The cell of a number with a mantissa of 53 bits holds one decimal of up to fifteen digits at most: its
neighbours on the grid are too far away. -/
theorem eq_of_mem_cell {a b : ℕ} {k : ℤ} (bits : 2 ^ 52 ≤ x.mantissa) (short : a < 10 ^ 15)
    (member : (a * 10 ^ k : ℚ) ∈ x.cell) (other : (b * 10 ^ k : ℚ) ∈ x.cell) : a = b := by
  have unit : (0 : ℚ) < 2 ^ x.exponent := zpow_pos two_pos _
  have step : (0 : ℚ) < 10 ^ k := zpow_pos (by norm_num) k
  obtain ⟨lower, upper⟩ := (mem_between.mp member).1
  obtain ⟨lower', upper'⟩ := (mem_between.mp other).1
  have bits : (2 ^ 52 : ℚ) ≤ x.mantissa := by exact_mod_cast bits
  have short : (a : ℚ) < 10 ^ 15 := by exact_mod_cast short
  have floor : (2 ^ 52 - 1 / 2) * 2 ^ x.exponent ≤ x.low := by
    rw [low]
    apply mul_le_mul_of_nonneg_right _ unit.le
    split <;> linarith
  have width : x.high - x.low ≤ 2 ^ x.exponent := by
    rw [low, high, ← sub_mul]
    conv_rhs => rw [← one_mul (2 ^ x.exponent)]
    apply mul_le_mul_of_nonneg_right _ unit.le
    split <;> linarith
  by_contra apart
  -- The gap between two multiples is no wider than the cell, and the cell lies high above its width.
  have gap : (10 ^ k : ℚ) ≤ 2 ^ x.exponent := by
    rcases Nat.lt_or_gt_of_ne apart with less | more
    · have : (a + 1 : ℚ) ≤ b := by exact_mod_cast less
      nlinarith
    · have : (b + 1 : ℚ) ≤ a := by exact_mod_cast more
      nlinarith
  nlinarith

/-- What lies in the cell of a number is between half of it and twice as much. -/
theorem near_of_mem_cell {q : ℚ} (positive : 0 < x.mantissa) (member : q ∈ x.cell) :
    x.value ≤ 2 * q ∧ q ≤ 2 * x.value := by
  have unit : (0 : ℚ) < 2 ^ x.exponent := zpow_pos two_pos _
  have mantissa : (1 : ℚ) ≤ x.mantissa := by exact_mod_cast positive
  obtain ⟨lower, upper⟩ := (mem_between.mp member).1
  rw [low] at lower
  rw [high] at upper
  have half : (x.mantissa / 2 * 2 ^ x.exponent : ℚ) ≤ q := by
    refine le_trans (mul_le_mul_of_nonneg_right ?_ unit.le) lower
    split <;> linarith
  have twice : q ≤ 2 * x.mantissa * 2 ^ x.exponent :=
    upper.trans (mul_le_mul_of_nonneg_right (by linarith) unit.le)
  rw [value]
  constructor <;> linarith

/-- A decimal of up to fifteen digits that rounds to a number with a mantissa of 53 bits is the shortest
one that does. -/
theorem shortest_eq {a : ℕ} {k : ℤ} (bits : 2 ^ 52 ≤ x.mantissa) (some : 0 < a) (short : a < 10 ^ 15)
    (member : (a * 10 ^ k : ℚ) ∈ x.cell) : ((shortest x).1 * 10 ^ (shortest x).2 : ℚ) = a * 10 ^ k := by
  have positive : 0 < x.mantissa := by omega
  have step : (0 : ℚ) < 10 ^ k := zpow_pos (by norm_num) k
  have ten : (10 : ℚ) ≠ 0 := by norm_num
  obtain ⟨start, starts⟩ := magnitude_spec positive
  obtain ⟨lower, upper⟩ := near_of_mem_cell positive member
  have starts : k ≤ magnitude (interval x) := by
    have some : (1 : ℚ) ≤ a := by exact_mod_cast some
    have less : (10 : ℚ) ^ k < 10 ^ (magnitude (interval x) + 1) := by
      rw [zpow_add_one₀ ten]
      nlinarith
    have := (zpow_lt_zpow_iff_right₀ (by norm_num)).mp less
    omega
  have reaches : magnitude (interval x) < k + (20 : ℕ) := by
    have short : (a : ℚ) < 10 ^ 15 := by exact_mod_cast short
    have less : (10 : ℚ) ^ (magnitude (interval x) - 1) < 10 ^ (k + (16 : ℕ)) := by
      rw [zpow_add₀ ten, zpow_natCast]
      nlinarith
    have := (zpow_lt_zpow_iff_right₀ (by norm_num)).mp less
    omega
  obtain ⟨m, p, found, coarser, other⟩ := exists_search positive member starts reaches
  rw [shortest, if_neg positive.ne', found]
  -- A multiple on a coarser grid is one on the grid of the decimal too.
  obtain ⟨c, gap⟩ := Int.eq_ofNat_of_zero_le (sub_nonneg.mpr coarser)
  have finer : (m * 10 ^ p : ℚ) = (m * 10 ^ c : ℕ) * 10 ^ k := by
    rw [← sub_add_cancel p k, gap, zpow_add₀ ten]
    push_cast
    rw [zpow_natCast, mul_assoc]
  rw [finer] at other
  rw [Option.getD_some, finer, eq_of_mem_cell bits short member other]

/-- Where a ratio is a decimal of up to fifteen digits, not far from one, the shortest decimal of the number
that it is rounded to is this decimal. -/
theorem exists_ofRatio?_of_short {n d a : ℕ} {k : ℤ} (above : 0 < n) (below : 0 < d)
    (short : a < 10 ^ 15) (near : -22 ≤ k ∧ k ≤ 22) (ratio : (n / d : ℚ) = a * 10 ^ k) :
    ∃ x, ofRatio? n d = some x ∧ ((shortest x).1 * 10 ^ (shortest x).2 : ℚ) = a * 10 ^ k := by
  have step : (0 : ℚ) < 10 ^ k := zpow_pos (by norm_num) k
  have some : 0 < a := by
    by_contra zero
    rw [Nat.eq_zero_of_not_pos zero, Nat.cast_zero, zero_mul] at ratio
    have : (0 : ℚ) < n / d := by positivity
    exact this.ne' ratio
  have least : (10 : ℚ) ^ (-22 : ℤ) ≤ 10 ^ k := zpow_le_zpow_right₀ (by norm_num) near.1
  have most : (10 : ℚ) ^ k ≤ 10 ^ (22 : ℤ) := zpow_le_zpow_right₀ (by norm_num) near.2
  have one : (1 : ℚ) ≤ a := by exact_mod_cast some
  have fifteen : (a : ℚ) < 10 ^ 15 := by exact_mod_cast short
  -- The bounds on the power keep the ratio away from what is too large or has too few bits.
  have moderate : (n / d : ℚ) < 2 ^ 200 := by
    rw [ratio]
    calc (a * 10 ^ k : ℚ)
      _ ≤ 10 ^ 15 * 10 ^ (22 : ℤ) := mul_le_mul fifteen.le most step.le (by norm_num)
      _ < 2 ^ 200 := by norm_num
  have normal : (2 ^ 52 * 2 ^ minExponent : ℚ) ≤ n / d := by
    rw [ratio, two_pow_mul_zpow]
    calc (2 : ℚ) ^ (((52 : ℕ) : ℤ) + minExponent)
      _ ≤ 2 ^ (-88 : ℤ) := zpow_le_zpow_right₀ one_le_two (by decide)
      _ ≤ 10 ^ (-22 : ℤ) := by norm_num
      _ ≤ a * 10 ^ k := by nlinarith
  obtain ⟨x, found⟩ := exists_ofRatio? above below moderate
  have member := mem_cell_of_ofRatio? above below found
  rw [ratio] at member
  exact ⟨x, found, shortest_eq (le_mantissa_of_ofRatio? above below found normal) some short member⟩

/-! ### Positional notation -/

/-- The shortest decimal is written as digits with a point among them. -/
theorem positional_eq (x : Binary64) : ∃ front back, positional x = parted front back ∧
    (∀ c ∈ front ++ back, c.isDigit = true) ∧ front ≠ [] ∧
    (digitsValue (front ++ back) / 10 ^ back.length : ℚ) = (shortest x).1 * 10 ^ (shortest x).2 := by
  unfold positional
  obtain ⟨m, k⟩ := shortest x
  dsimp only
  by_cases whole : 0 ≤ k
  · rw [if_pos whole]
    refine ⟨Nat.toDigits 10 (m * Nat.pow 10 k.toNat), [], (if_pos rfl).symm, ?_, Nat.toDigits_ne_nil, ?_⟩
    · rw [List.append_nil]
      exact fun c member => Nat.isDigit_of_mem_toDigits (by decide) (by decide) member
    · have value : digitsValue (Nat.toDigits 10 (m * Nat.pow 10 k.toNat)) = m * 10 ^ k.toNat :=
        Nat.ofDigitChars_toDigits (by decide) (by decide)
      rw [List.append_nil, value, List.length_nil, pow_zero, div_one, Nat.cast_mul, Nat.cast_pow,
        ← zpow_natCast, Int.toNat_of_nonneg whole, Nat.cast_ofNat]
  · rw [if_neg whole]
    obtain ⟨places, exponent⟩ := Int.eq_ofNat_of_zero_le (show 0 ≤ -k by omega)
    have long := le_length_padded (places + 1) m
    have digits : ∀ c ∈ padded (places + 1) m, c.isDigit = true := fun _ => isDigit_of_mem_padded
    have value := digitsValue_padded (places + 1) m
    rw [exponent, Int.toNat_natCast]
    change ∃ front back, (padded (places + 1) m).take ((padded (places + 1) m).length - places) ++
      '.' :: (padded (places + 1) m).drop ((padded (places + 1) m).length - places) = _ ∧ _
    generalize padded (places + 1) m = ds at long digits value
    have many : (ds.drop (ds.length - places)).length = places := by
      rw [List.length_drop]
      omega
    have some : ds.drop (ds.length - places) ≠ [] := List.ne_nil_of_length_pos (by omega)
    refine ⟨_, _, (if_neg some).symm, ?_, ?_, ?_⟩
    · rw [List.take_append_drop]
      exact digits
    · apply List.ne_nil_of_length_pos
      rw [List.length_take]
      omega
    · rw [List.take_append_drop, value, many, ← neg_neg k, exponent, zpow_neg, zpow_natCast,
        div_eq_mul_inv]

end PriceHistory.Binary64
