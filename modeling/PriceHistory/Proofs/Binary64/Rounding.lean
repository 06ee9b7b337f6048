import Mathlib.Algebra.Order.Field.Basic
import Mathlib.Algebra.Order.Field.Power
import Mathlib.Algebra.Order.Ring.Rat
import Mathlib.Order.Interval.Set.Defs
import Mathlib.Tactic.FieldSimp
import Mathlib.Tactic.Linarith
import Mathlib.Tactic.NormNum
import Mathlib.Tactic.Positivity
import Mathlib.Tactic.Ring
import PriceHistory.Binary64.Basic

/-!
What rounding to a floating-point number comes to. The ratio lies among the reals around the number that
are nearer to it than to any other, a whole number with few enough bits is kept, and a ratio that is
neither tiny nor huge gives a number with a mantissa of 53 bits.
-/
namespace PriceHistory.Binary64

/-- The number that a floating-point number stands for. -/
def value (x : Binary64) : ℚ :=
  x.mantissa * 2 ^ x.exponent

/-- The numbers between two ends, with the ends or without them. -/
def between (closed : Prop) [Decidable closed] (low high : ℚ) : Set ℚ :=
  if closed then Set.Icc low high else Set.Ioo low high

theorem mem_between {closed : Prop} [Decidable closed] {low high q : ℚ} : q ∈ between closed low high ↔
    (low ≤ q ∧ q ≤ high) ∧ (¬closed → low < q ∧ q < high) := by
  unfold between
  split
  next ends => simp [ends]
  next ends =>
    simp only [Set.mem_Ioo, ends, not_false_eq_true, forall_const]
    exact ⟨fun inside => ⟨⟨inside.1.le, inside.2.le⟩, inside⟩, And.right⟩

/-- The end below a number of the reals that round to it. The gap below a power of two is half as wide
as the one above. -/
def low (x : Binary64) : ℚ :=
  (x.mantissa - if x.mantissa = 1 <<< (mantissaBits - 1) ∧ minExponent < x.exponent then 1 / 4
    else 1 / 2) * 2 ^ x.exponent

/-- The end above a number of the reals that round to it. -/
def high (x : Binary64) : ℚ :=
  (x.mantissa + 1 / 2) * 2 ^ x.exponent

/-- The reals that round to a number. The ends belong to it where its mantissa is even. -/
def cell (x : Binary64) : Set ℚ :=
  between (x.mantissa % 2 = 0) x.low x.high

/-! ### Ratios -/

theorem shiftLeft_eq_zpow (n : ℕ) {e : ℤ} (nonneg : 0 ≤ e) :
    ((n <<< e.toNat : ℕ) : ℚ) = n * 2 ^ e := by
  rw [Nat.shiftLeft_eq, Nat.cast_mul, Nat.cast_pow, Nat.cast_ofNat, ← zpow_natCast,
    Int.toNat_of_nonneg nonneg]

theorem ratio_pos (x : Binary64) : 0 < x.ratio.2 := by
  unfold ratio
  split
  · exact Nat.one_pos
  · exact Nat.shiftLeft_pos_iff.mpr Nat.one_pos

theorem ratio_eq (x : Binary64) : (x.ratio.1 / x.ratio.2 : ℚ) = x.value := by
  unfold ratio value
  split
  next nonneg => rw [shiftLeft_eq_zpow _ nonneg, Nat.cast_one, div_one]
  next negative =>
    rw [shiftLeft_eq_zpow 1 (by omega), Nat.cast_one, one_mul, zpow_neg, div_inv_eq_mul]

theorem ratio_fst_pos {x : Binary64} (positive : 0 < x.value) : 0 < x.ratio.1 := by
  by_contra none
  rw [← ratio_eq, Nat.eq_zero_of_not_pos none, Nat.cast_zero, zero_div] at positive
  exact lt_irrefl _ positive

theorem scaled_pos (n : ℕ) {d : ℕ} (positive : 0 < d) (e : ℤ) : 0 < (scaled n d e).2 := by
  unfold scaled
  split
  · exact Nat.shiftLeft_pos_iff.mpr positive
  · exact positive

theorem scaled_eq (n d : ℕ) (e : ℤ) :
    ((scaled n d e).1 / (scaled n d e).2 : ℚ) = n / d / 2 ^ e := by
  unfold scaled
  split
  next nonneg => rw [shiftLeft_eq_zpow _ nonneg, div_mul_eq_div_div]
  next negative =>
    rw [shiftLeft_eq_zpow _ (by omega), zpow_neg, ← div_eq_mul_inv, div_right_comm]

/-! ### Whole numbers -/

/-- A ratio lies within a half of the whole number to which it is rounded, and only an even number is
a half away from it. -/
theorem roundDiv_mem_between (n : ℕ) {d : ℕ} (positive : 0 < d) :
    (n / d : ℚ) ∈ between (roundDiv n d % 2 = 0) (roundDiv n d - 1 / 2) (roundDiv n d + 1 / 2) := by
  have whole : (n : ℚ) = d * (n / d : ℕ) + (n % d : ℕ) := by
    exact_mod_cast (Nat.div_add_mod n d).symm
  have divisor : (0 : ℚ) < d := by exact_mod_cast positive
  have ratio : (n / d : ℚ) = (n / d : ℕ) + (n % d : ℕ) / d := by
    rw [div_eq_iff divisor.ne', add_mul, div_mul_cancel₀ _ divisor.ne', mul_comm, ← whole]
  have below : (0 : ℚ) ≤ (n % d : ℕ) / d := by positivity
  have above : ((n % d : ℕ) / d : ℚ) < 1 := by
    rw [div_lt_one divisor]
    exact_mod_cast Nat.mod_lt n positive
  rw [mem_between, ratio, roundDiv]
  -- The remainder is less than half of the divisor, half of it, or more.
  rcases Nat.lt_trichotomy (2 * (n % d)) d with less | half | more
  · have less : ((n % d : ℕ) / d : ℚ) < 1 / 2 := by
      rw [div_lt_div_iff₀ divisor two_pos]
      exact_mod_cast (by omega : n % d * 2 < 1 * d)
    rw [if_pos (by assumption)]
    refine ⟨⟨?_, ?_⟩, fun _ => ⟨?_, ?_⟩⟩ <;> linarith
  · have equal : ((n % d : ℕ) / d : ℚ) = 1 / 2 := by
      rw [div_eq_div_iff divisor.ne' two_ne_zero]
      exact_mod_cast (by omega : n % d * 2 = 1 * d)
    rw [if_neg (by omega), if_neg (by omega), equal]
    -- Of the two neighbours the even one is taken.
    have even : (n / d + n / d % 2) % 2 = 0 := by omega
    refine ⟨?_, fun odd => absurd even odd⟩
    rcases Nat.mod_two_eq_zero_or_one (n / d) with rest | rest <;> rw [rest] <;> push_cast <;>
      constructor <;> linarith
  · have more : (1 / 2 : ℚ) < (n % d : ℕ) / d := by
      rw [div_lt_div_iff₀ two_pos divisor]
      exact_mod_cast (by omega : 1 * d < n % d * 2)
    rw [if_neg (by omega), if_pos (by assumption)]
    push_cast
    refine ⟨⟨?_, ?_⟩, fun _ => ⟨?_, ?_⟩⟩ <;> linarith

/-- Only a whole number itself is within a half of it. -/
theorem eq_of_mem_between_half {closed : Prop} [Decidable closed] {m a : ℕ}
    (near : (a : ℚ) ∈ between closed (m - 1 / 2) (m + 1 / 2)) : m = a := by
  obtain ⟨lower, upper⟩ := (mem_between.mp near).1
  have below : (m : ℚ) < a + 1 := by linarith
  have above : (a : ℚ) < m + 1 := by linarith
  have below : m < a + 1 := by exact_mod_cast below
  have above : a < m + 1 := by exact_mod_cast above
  omega

/-! ### Exponents -/

theorem two_pow_mul_zpow (k : ℕ) (e : ℤ) : (2 ^ k * 2 ^ e : ℚ) = 2 ^ (k + e : ℤ) := by
  rw [zpow_add₀ two_ne_zero, zpow_natCast]

theorem zpow_log2_le {n : ℕ} (positive : 0 < n) : (2 : ℚ) ^ (n.log2 : ℤ) ≤ n := by
  rw [zpow_natCast]
  exact_mod_cast Nat.log2_self_le positive.ne'

theorem lt_zpow_log2 (n : ℕ) : (n : ℚ) < 2 ^ (n.log2 + 1 : ℤ) := by
  have above : n < 2 ^ (n.log2 + 1) := Nat.lt_log2_self
  rw [← Nat.cast_succ, zpow_natCast]
  exact_mod_cast above

theorem ratio_between_log2 {n d : ℕ} (above : 0 < n) (below : 0 < d) :
    (2 ^ (n.log2 - d.log2 - 1 : ℤ) : ℚ) ≤ n / d ∧ (n / d : ℚ) < 2 ^ (n.log2 - d.log2 + 1 : ℤ) := by
  have divisor : (0 : ℚ) < d := by exact_mod_cast below
  constructor
  · calc (2 : ℚ) ^ (n.log2 - d.log2 - 1 : ℤ)
      _ = 2 ^ (n.log2 : ℤ) / 2 ^ (d.log2 + 1 : ℤ) := by
          rw [← zpow_sub₀ two_ne_zero, sub_sub]
      _ ≤ n / d := div_le_div₀ (Nat.cast_nonneg n) (zpow_log2_le above) divisor (lt_zpow_log2 d).le
  · calc (n / d : ℚ)
      _ < 2 ^ (n.log2 + 1 : ℤ) / 2 ^ (d.log2 : ℤ) :=
          div_lt_div₀ (lt_zpow_log2 n) (zpow_log2_le below) (zpow_nonneg zero_le_two _)
            (zpow_pos two_pos _)
      _ = 2 ^ (n.log2 - d.log2 + 1 : ℤ) := by
          rw [← zpow_sub₀ two_ne_zero, sub_add_eq_add_sub]

/-- The exponent leaves a mantissa of 53 bits, unless the ratio is so small that the smallest exponent
leaves less. -/
theorem exponentOf_spec {n d : ℕ} (above : 0 < n) (below : 0 < d) :
    minExponent ≤ exponentOf n d ∧ (n / d : ℚ) < 2 ^ 53 * 2 ^ exponentOf n d ∧
      (minExponent < exponentOf n d ∨ (2 ^ 52 * 2 ^ minExponent : ℚ) ≤ n / d →
        (2 ^ 52 * 2 ^ exponentOf n d : ℚ) ≤ n / d) := by
  -- Before it is kept from falling below the smallest exponent, the exponent leaves 53 bits.
  obtain ⟨e, exponent, lower, upper⟩ : ∃ e, exponentOf n d = max minExponent e ∧
      (2 ^ 52 * 2 ^ e : ℚ) ≤ n / d ∧ (n / d : ℚ) < 2 ^ 53 * 2 ^ e := by
    set guess : ℤ := n.log2 - d.log2 - mantissaBits with guessed
    have bits : (mantissaBits : ℤ) = 53 := rfl
    have tight : (2 ^ 52 * 2 ^ guess : ℚ) ≤ n / d ∧ (n / d : ℚ) < 2 ^ 54 * 2 ^ guess := by
      have powers := ratio_between_log2 above below
      have lower : (n.log2 - d.log2 - 1 : ℤ) = (52 : ℕ) + guess := by omega
      have upper : (n.log2 - d.log2 + 1 : ℤ) = (54 : ℕ) + guess := by omega
      rwa [lower, upper, ← two_pow_mul_zpow, ← two_pow_mul_zpow] at powers
    have short : (scaled n d guess).1 / (scaled n d guess).2 < 1 <<< mantissaBits ↔
        (n / d : ℚ) < 2 ^ 53 * 2 ^ guess := by
      have low := scaled_pos n below guess
      rw [Nat.div_lt_iff_lt_mul low, ← div_lt_iff₀ (zpow_pos two_pos _), ← scaled_eq,
        div_lt_iff₀ (by exact_mod_cast low)]
      exact_mod_cast Iff.rfl
    by_cases fits : (n / d : ℚ) < 2 ^ 53 * 2 ^ guess
    · refine ⟨guess, ?_, tight.1, fits⟩
      unfold exponentOf
      simp only [← guessed, if_pos (short.mpr fits)]
    · refine ⟨guess + 1, ?_, ?_, ?_⟩
      · unfold exponentOf
        simp only [← guessed, if_neg (short.not.mpr fits)]
      · rw [zpow_add_one₀ two_ne_zero]
        linarith
      · rw [zpow_add_one₀ two_ne_zero]
        linarith
  rw [exponent]
  refine ⟨le_max_left _ _, ?_, ?_⟩
  · refine upper.trans_le (mul_le_mul_of_nonneg_left ?_ (by positivity))
    exact zpow_le_zpow_right₀ one_le_two (le_max_right _ _)
  · rcases le_total e minExponent with tiny | normal
    · rw [max_eq_left tiny]
      exact fun either => either.resolve_left (lt_irrefl _)
    · rw [max_eq_right normal]
      exact fun _ => lower

/-! ### Rounding -/

variable {n d : ℕ} {x : Binary64}

/-- A ratio is scaled and rounded to a whole number. Where that needs 54 bits, its last bit is given
up, and is zero. -/
theorem ofRatio?_eq_some (above : 0 < n) (below : 0 < d) (found : ofRatio? n d = some x) :
    ∃ m : ℕ, (n / d / 2 ^ exponentOf n d : ℚ) ∈ between (m % 2 = 0) (m - 1 / 2) (m + 1 / 2) ∧
      (m ≠ 2 ^ 53 ∧ x = ⟨m, exponentOf n d⟩ ∨ m = 2 ^ 53 ∧ x = ⟨2 ^ 52, exponentOf n d + 1⟩) := by
  have near := roundDiv_mem_between (scaled n d (exponentOf n d)).1 (scaled_pos n below (exponentOf n d))
  rw [scaled_eq] at near
  refine ⟨_, near, ?_⟩
  unfold ofRatio? at found
  rw [if_neg above.ne'] at found
  dsimp only at found
  by_cases carry : roundDiv (scaled n d (exponentOf n d)).1 (scaled n d (exponentOf n d)).2 =
      1 <<< mantissaBits
  · rw [if_pos carry] at found
    exact .inr ⟨carry, Option.some.inj (Option.ite_none_right_eq_some.mp found).2.symm⟩
  · rw [if_neg carry] at found
    exact .inl ⟨carry, Option.some.inj (Option.ite_none_right_eq_some.mp found).2.symm⟩

theorem mem_cell_of_ofRatio? (above : 0 < n) (below : 0 < d) (found : ofRatio? n d = some x) :
    (n / d : ℚ) ∈ x.cell := by
  obtain ⟨m, near, rounded⟩ := ofRatio?_eq_some above below found
  obtain ⟨least, -, normal⟩ := exponentOf_spec above below
  generalize exponentOf n d = e at near rounded least normal
  have unit : (0 : ℚ) < 2 ^ e := zpow_pos two_pos e
  obtain ⟨⟨lower, upper⟩, inner⟩ := mem_between.mp near
  rw [le_div_iff₀ unit] at lower
  rw [div_le_iff₀ unit] at upper
  rw [lt_div_iff₀ unit, div_lt_iff₀ unit] at inner
  rw [cell, mem_between, low, high]
  rcases rounded with ⟨_, rfl⟩ | ⟨rfl, rfl⟩
  · dsimp only
    by_cases narrow : m = 1 <<< (mantissaBits - 1) ∧ minExponent < e
    · -- A power of two is even, and no smaller ratio has its exponent.
      have bits := normal (.inl narrow.2)
      have mantissa : m = 2 ^ 52 := narrow.1
      subst mantissa
      rw [if_pos narrow]
      refine ⟨⟨?_, upper⟩, fun odd => absurd rfl odd⟩
      push_cast
      linarith
    · rw [if_neg narrow]
      exact ⟨⟨lower, upper⟩, inner⟩
  · -- The carry lands on a power of two, whose cell is the narrow one below it.
    have narrow : (2 ^ 52 = 1 <<< (mantissaBits - 1)) ∧ minExponent < e + 1 := ⟨rfl, by omega⟩
    dsimp only
    rw [if_pos narrow, zpow_add_one₀ two_ne_zero]
    push_cast at lower upper ⊢
    refine ⟨⟨?_, ?_⟩, fun odd => absurd trivial odd⟩ <;> linarith

theorem le_mantissa_of_ofRatio? (above : 0 < n) (below : 0 < d) (found : ofRatio? n d = some x)
    (normal : (2 ^ 52 * 2 ^ minExponent : ℚ) ≤ n / d) : 2 ^ 52 ≤ x.mantissa := by
  obtain ⟨m, near, rounded⟩ := ofRatio?_eq_some above below found
  have bits := (exponentOf_spec above below).2.2 (.inr normal)
  rw [← le_div_iff₀ (zpow_pos two_pos _)] at bits
  rcases rounded with ⟨_, rfl⟩ | ⟨_, rfl⟩
  · have close := (mem_between.mp near).1.2
    have many : (2 ^ 52 : ℚ) < m + 1 := by linarith
    have many : 2 ^ 52 < m + 1 := by exact_mod_cast many
    exact Nat.le_of_lt_succ many
  · exact Nat.le_refl _

/-- A ratio that is not huge is rounded to a number. -/
theorem exists_ofRatio? (above : 0 < n) (below : 0 < d) (moderate : (n / d : ℚ) < 2 ^ 200) :
    ∃ x, ofRatio? n d = some x := by
  have small : exponentOf n d < maxExponent := by
    by_contra large
    have large : maxExponent ≤ exponentOf n d := by omega
    have bits := (exponentOf_spec above below).2.2 (.inl (lt_of_lt_of_le (by decide) large))
    have power : (2 : ℚ) ^ maxExponent ≤ 2 ^ exponentOf n d := zpow_le_zpow_right₀ one_le_two large
    have huge : (2 ^ 200 : ℚ) ≤ 2 ^ 52 * 2 ^ maxExponent := by
      rw [two_pow_mul_zpow, ← zpow_natCast]
      exact zpow_le_zpow_right₀ one_le_two (by decide)
    linarith
  unfold ofRatio?
  rw [if_neg above.ne']
  dsimp only
  split <;> exact ⟨_, if_pos (by dsimp only; omega)⟩

/-- A whole number with a factor of 53 bits beside a power of two is kept. -/
theorem value_of_ofRatio?_whole {a b : ℕ} (positive : 0 < a) (bits : a < 2 ^ 53)
    (found : ofRatio? (a * 2 ^ b) 1 = some x) : x.value = a * 2 ^ b := by
  have above : 0 < a * 2 ^ b := by positivity
  obtain ⟨least, -, normal⟩ := exponentOf_spec above Nat.one_pos
  -- With a larger exponent than `b` the mantissa would have fewer than 53 bits.
  have spread : exponentOf (a * 2 ^ b) 1 ≤ b := by
    by_contra large
    have large : (b + 1 : ℤ) ≤ exponentOf (a * 2 ^ b) 1 := by omega
    have enough := normal (.inl (lt_of_lt_of_le (by unfold minExponent; omega) large))
    have power : (2 : ℚ) ^ (b + 1 : ℤ) ≤ 2 ^ exponentOf (a * 2 ^ b) 1 :=
      zpow_le_zpow_right₀ one_le_two large
    have bits : (a : ℚ) < 2 ^ 53 := by exact_mod_cast bits
    have unit : (0 : ℚ) < 2 ^ b := by positivity
    rw [zpow_add_one₀ two_ne_zero, zpow_natCast] at power
    push_cast at enough
    nlinarith
  -- Scaled by its exponent it is whole, and so it is not rounded.
  obtain ⟨m, near, rounded⟩ := ofRatio?_eq_some above Nat.one_pos found
  generalize exponentOf (a * 2 ^ b) 1 = e at near rounded spread
  obtain ⟨c, gap⟩ : ∃ c : ℕ, (b : ℤ) = c + e := ⟨(b - e).toNat, by omega⟩
  have power : (2 : ℚ) ^ b = 2 ^ c * 2 ^ e := by
    rw [two_pow_mul_zpow, ← gap, zpow_natCast]
  have whole : ((a * 2 ^ b : ℕ) / (1 : ℕ) / 2 ^ e : ℚ) = (a * 2 ^ c : ℕ) := by
    push_cast
    rw [power, div_one, ← mul_assoc, mul_div_cancel_right₀ _ (zpow_ne_zero e two_ne_zero)]
  rw [whole] at near
  have kept : x.value = m * 2 ^ e := by
    rcases rounded with ⟨_, rfl⟩ | ⟨rfl, rfl⟩
    · rfl
    · rw [value, zpow_add_one₀ two_ne_zero]
      push_cast
      ring
  rw [kept, eq_of_mem_between_half near, power]
  push_cast
  ring

theorem exists_ofRatio?_whole {a b : ℕ} (positive : 0 < a) (bits : a < 2 ^ 53) (moderate : b ≤ 100) :
    ∃ x, ofRatio? (a * 2 ^ b) 1 = some x ∧ x.value = a * 2 ^ b := by
  have above : 0 < a * 2 ^ b := by positivity
  have small : a * 2 ^ b < 2 ^ 200 := by
    calc a * 2 ^ b
      _ < 2 ^ 53 * 2 ^ b := Nat.mul_lt_mul_of_pos_right bits (by positivity)
      _ ≤ 2 ^ 53 * 2 ^ 100 := Nat.mul_le_mul_left _ (Nat.pow_le_pow_right (by decide) moderate)
      _ ≤ 2 ^ 200 := by decide
  have small : ((a * 2 ^ b : ℕ) / (1 : ℕ) : ℚ) < 2 ^ 200 := by
    rw [Nat.cast_one, div_one]
    exact_mod_cast small
  obtain ⟨x, found⟩ := exists_ofRatio? above Nat.one_pos small
  exact ⟨x, found, value_of_ofRatio?_whole positive bits found⟩

/-! ### Products and quotients -/

theorem exists_mul?_eq {x y : Binary64} (left : 0 < x.value) (right : 0 < y.value) :
    ∃ n d, x.mul? y = ofRatio? n d ∧ 0 < n ∧ 0 < d ∧ (n / d : ℚ) = x.value * y.value := by
  refine ⟨_, _, rfl, Nat.mul_pos (ratio_fst_pos left) (ratio_fst_pos right),
    Nat.mul_pos (ratio_pos x) (ratio_pos y), ?_⟩
  rw [Nat.cast_mul, Nat.cast_mul, mul_div_mul_comm, ratio_eq, ratio_eq]

theorem exists_div?_eq {x y : Binary64} (left : 0 < x.value) (right : 0 < y.value) :
    ∃ n d, x.div? y = ofRatio? n d ∧ 0 < n ∧ 0 < d ∧ (n / d : ℚ) = x.value / y.value := by
  refine ⟨_, _, rfl, Nat.mul_pos (ratio_fst_pos left) (ratio_pos y),
    Nat.mul_pos (ratio_pos x) (ratio_fst_pos right), ?_⟩
  rw [Nat.cast_mul, Nat.cast_mul, ← ratio_eq, ← ratio_eq, div_div_div_eq]

end PriceHistory.Binary64
