import Mathlib.Algebra.Order.Field.Basic
import Mathlib.Algebra.Order.Ring.Rat
import Mathlib.Tactic.FieldSimp
import Mathlib.Tactic.Linarith
import Mathlib.Tactic.NormNum
import Mathlib.Tactic.Ring
import PriceHistory.Proofs.Decimal.Text

/-!
The values of decimals. Reading rounds away what does not fit, but a run of digits whose value some
decimal has is read as a decimal of just that value, however long the run is: the digits that are dropped
from it are zeros.
-/
namespace PriceHistory

open PriceHistory.Text PriceHistory.Decimal

/-- The number that a magnitude stands for. -/
def Magnitude.value (m : Magnitude) : ℚ :=
  m.coefficient / 10 ^ m.scale

theorem Magnitude.value_nonneg (m : Magnitude) : 0 ≤ m.value := by
  unfold value
  positivity

theorem Magnitude.value_eq_value_iff {m q : Magnitude} :
    m.value = q.value ↔ m.coefficient * 10 ^ q.scale = q.coefficient * 10 ^ m.scale := by
  rw [value, value, div_eq_div_iff (by positivity) (by positivity)]
  exact_mod_cast Iff.rfl

namespace Decimal

/-- The number that a decimal stands for. -/
def value (d : Decimal) : ℚ :=
  d.signedCoefficient / 10 ^ d.scale

/-- Is there a decimal of this value? -/
def Has (q : ℚ) : Prop :=
  ∃ d : Decimal, d.value = q

theorem value_eq (d : Decimal) :
    d.value = if d.negative then -d.toMagnitude.value else d.toMagnitude.value := by
  unfold value signedCoefficient Magnitude.value
  split
  · rw [Int.cast_neg, neg_div]
    rfl
  · rfl

theorem value_signed (negative : Bool) (m : Magnitude) :
    (m.signed negative).value = if negative then -m.value else m.value := by
  rw [value_eq]
  by_cases zero : m.coefficient = 0
  · simp [Magnitude.signed, Magnitude.value, zero]
  · cases negative <;> simp [Magnitude.signed, zero]

/-- A decimal that is stored and read back keeps its value. -/
@[simp] theorem value_readBack (d : Decimal) : d.readBack.value = d.value := by
  rw [readBack, value_signed, value_eq]

theorem exists_magnitude_of_has {q : ℚ} (has : Has q) : ∃ m : Magnitude, m.value = |q| := by
  obtain ⟨d, rfl⟩ := has
  refine ⟨d.toMagnitude, ?_⟩
  rw [value_eq]
  split
  · rw [abs_neg, abs_of_nonneg d.value_nonneg]
  · rw [abs_of_nonneg d.value_nonneg]

theorem has_abs {q : ℚ} (has : Has q) : Has |q| := by
  obtain ⟨m, value⟩ := exists_magnitude_of_has has
  exact ⟨m.signed false, by rw [value_signed, if_neg Bool.false_ne_true, value]⟩

/-! ### Runs of digits -/

theorem checkDropped_of_isDigit {ds : List Char} (digits : ∀ c ∈ ds, c.isDigit = true) :
    checkDropped ds = .ok () := by
  induction ds with
  | nil => rfl
  | cons c ds ih =>
    rw [checkDropped, digits c List.mem_cons_self]
    exact ih fun d member => digits d (List.mem_cons_of_mem c member)

theorem roundAt_of_zeros (m : Magnitude) {ds : List Char} (digits : ∀ c ∈ ds, c.isDigit = true)
    (zeros : digitsValue ds = 0) : roundAt m ds = .ok m := by
  cases ds with
  | nil => rfl
  | cons c ds =>
    have rest := checkDropped_of_isDigit fun d member => digits d (List.mem_cons_of_mem c member)
    have first : digitsValue [c] = 0 := by
      rw [← List.singleton_append, digitsValue_append] at zeros
      have := Nat.pow_pos (n := ds.length) (show 0 < 10 by decide)
      exact (Nat.mul_eq_zero.mp (Nat.eq_zero_of_add_eq_zero_right zeros)).resolve_right (by omega)
    rw [roundAt, if_pos (digits c List.mem_cons_self), if_neg (by omega), rest]
    rfl

/-- Where some magnitude `q` has the value of what is read so far with the digits that follow, and the
next digit has no room, all of these digits are zeros. -/
private theorem zeros_of_full {m q : Magnitude} {c : Char} {ds : List Char}
    (digits : ∀ d ∈ c :: ds, d.isDigit = true)
    (same : q.coefficient * 10 ^ (m.scale + (c :: ds).length) =
      (m.coefficient * 10 ^ (c :: ds).length + digitsValue (c :: ds)) * 10 ^ q.scale)
    (full : m.scale = maxScale ∨ coefficientLimit ≤ m.coefficient * 10 + digitsValue [c]) :
    digitsValue (c :: ds) = 0 := by
  rcases Nat.lt_or_ge m.scale q.scale with more | fewer
  · -- With more places than are read, `q` has a larger coefficient than there is.
    obtain ⟨b, scale⟩ := Nat.exists_eq_add_of_lt more
    have overflow := full.resolve_left fun full => by
      have := q.scale_le
      omega
    rw [← List.singleton_append, digitsValue_append, List.singleton_append, List.length_cons] at same
    have enough : (m.coefficient * 10 + digitsValue [c]) * 10 ^ ds.length ≤
        q.coefficient * 10 ^ ds.length := by
      refine Nat.le_of_mul_le_mul_right ?_ (Nat.pow_pos (n := m.scale + 1) (show 0 < 10 by decide))
      calc (m.coefficient * 10 + digitsValue [c]) * 10 ^ ds.length * 10 ^ (m.scale + 1)
        _ ≤ (m.coefficient * 10 ^ (ds.length + 1) +
              (digitsValue [c] * 10 ^ ds.length + digitsValue ds)) * 10 ^ (m.scale + 1) := by
            apply Nat.mul_le_mul_right
            rw [pow_succ]
            nlinarith
        _ ≤ (m.coefficient * 10 ^ (ds.length + 1) +
              (digitsValue [c] * 10 ^ ds.length + digitsValue ds)) * 10 ^ q.scale :=
            Nat.mul_le_mul_left _ (Nat.pow_le_pow_right (by decide) (by omega))
        _ = q.coefficient * 10 ^ ds.length * 10 ^ (m.scale + 1) := by
            rw [← same]
            ring
    have := Nat.le_of_mul_le_mul_right enough (Nat.pow_pos (by decide))
    have := q.fits
    omega
  · -- Else the digits make up a multiple of a power of ten that is larger than they are.
    obtain ⟨a, scale⟩ := Nat.exists_eq_add_of_le fewer
    have whole : q.coefficient * 10 ^ a * 10 ^ (c :: ds).length =
        m.coefficient * 10 ^ (c :: ds).length + digitsValue (c :: ds) := by
      refine Nat.eq_of_mul_eq_mul_right (Nat.pow_pos (n := q.scale) (show 0 < 10 by decide)) ?_
      rw [← same, scale, pow_add, pow_add]
      ring
    have divides : 10 ^ (c :: ds).length ∣ digitsValue (c :: ds) :=
      (Nat.dvd_add_right (Dvd.intro_left _ rfl)).mp (whole ▸ Dvd.intro_left _ rfl)
    exact Nat.eq_zero_of_dvd_of_lt divides (digitsValue_lt digits)

/-- Digits after the point are read one after another, and those that are dropped are zeros. -/
theorem readDigits_fraction {m q : Magnitude} {ds : List Char} (digits : ∀ c ∈ ds, c.isDigit = true)
    (same : q.coefficient * 10 ^ (m.scale + ds.length) =
      (m.coefficient * 10 ^ ds.length + digitsValue ds) * 10 ^ q.scale) :
    ∃ taken, readDigits true true m ds = .ok taken ∧ taken.value = q.value := by
  -- By induction on the digits: what is read so far has, with those that follow, the value of `q`.
  induction ds generalizing m with
  | nil =>
    rw [List.length_nil, Nat.add_zero, Nat.pow_zero, Nat.mul_one] at same
    exact ⟨m, rfl, Magnitude.value_eq_value_iff.mpr same.symm⟩
  | cons c ds ih =>
    have digit := digits c List.mem_cons_self
    have dropped (full : m.scale = maxScale ∨ coefficientLimit ≤ m.coefficient * 10 + digitsValue [c]) :
        roundAt m (c :: ds) = .ok m ∧ m.value = q.value := by
      have zeros := zeros_of_full digits same full
      refine ⟨roundAt_of_zeros m digits zeros, ?_⟩
      rw [zeros, Nat.add_zero, pow_add, ← mul_assoc, Nat.mul_right_comm m.coefficient] at same
      have short := Nat.eq_of_mul_eq_mul_right (Nat.pow_pos (show 0 < 10 by decide)) same
      exact Magnitude.value_eq_value_iff.mpr short.symm
    rw [readDigits]
    by_cases full : m.scale = maxScale
    · rw [dif_pos ⟨rfl, full⟩]
      exact ⟨m, dropped (.inl full)⟩
    · rw [dif_neg fun both => full both.2, if_pos digit]
      dsimp only
      by_cases room : m.coefficient * 10 + digitsValue [c] < coefficientLimit
      · rw [dif_pos room]
        apply ih fun d member => digits d (List.mem_cons_of_mem c member)
        rw [← List.singleton_append, digitsValue_append, List.singleton_append, List.length_cons] at same
        simp only [if_true]
        rw [Nat.add_assoc, Nat.add_comm 1, same, pow_succ]
        ring
      · rw [dif_neg room, if_pos rfl]
        exact ⟨m, dropped (.inr (Nat.le_of_not_lt room))⟩

/-- Digits whose value some decimal has are read as a decimal of that value. -/
theorem readDigits_parted_of_has {front back : List Char} (frontDigits : ∀ c ∈ front, c.isDigit = true)
    (backDigits : ∀ c ∈ back, c.isDigit = true) (nonempty : front ≠ [])
    (has : Has (digitsValue (front ++ back) / 10 ^ back.length)) :
    ∃ m, readDigits false false .zero (parted front back) = .ok m ∧
      m.value = digitsValue (front ++ back) / 10 ^ back.length := by
  obtain ⟨q, value⟩ := exists_magnitude_of_has has
  rw [abs_of_nonneg (by positivity)] at value
  have same : q.coefficient * 10 ^ back.length = digitsValue (front ++ back) * 10 ^ q.scale := by
    rw [Magnitude.value, div_eq_div_iff (by positivity) (by positivity)] at value
    exact_mod_cast value
  rw [digitsValue_append] at same
  -- The digits before the point make up a whole number that is no larger than the value.
  have fits : digitsValue front < coefficientLimit := by
    refine Nat.lt_of_le_of_lt ?_ q.fits
    refine Nat.le_of_mul_le_mul_right ?_ (Nat.pow_pos (n := back.length) (show 0 < 10 by decide))
    rw [same]
    exact Nat.le_trans (Nat.le_add_right _ _) (Nat.le_mul_of_pos_right _ (Nat.pow_pos (by decide)))
  let taken : Magnitude := ⟨digitsValue front, 0, fits, Nat.zero_le maxScale⟩
  have readFront (rest : List Char) : readDigits false false .zero (front ++ rest) =
      readDigits false true taken rest := by
    rw [readDigits_append false false .zero taken frontDigits rest rfl rfl,
      List.isEmpty_eq_false_iff.mpr nonempty]
    rfl
  rw [← value, parted]
  by_cases whole : back = []
  · subst whole
    have read := readFront []
    rw [List.append_nil] at read
    rw [if_pos rfl, read]
    refine ⟨taken, rfl, ?_⟩
    rw [value]
    simp [Magnitude.value, taken]
  · rw [if_neg whole, readFront, readDigits]
    simp only [Bool.false_eq_true, false_and, dite_false, show Char.isDigit '.' = false from rfl,
      if_false, if_true]
    apply readDigits_fraction backDigits
    rw [← same]
    simp [taken]

/-- A text with a minus in front of it, or with no sign. -/
def signed (negative : Bool) (cs : List Char) : List Char :=
  if negative then '-' :: cs else cs

theorem readPlain_of_has {front back : List Char} (frontDigits : ∀ c ∈ front, c.isDigit = true)
    (backDigits : ∀ c ∈ back, c.isDigit = true) (nonempty : front ≠ [])
    (has : Has (digitsValue (front ++ back) / 10 ^ back.length)) (negative : Bool) :
    ∃ m, readPlain (signed negative (parted front back)) = .ok (negative, m) ∧
      m.value = digitsValue (front ++ back) / 10 ^ back.length := by
  obtain ⟨m, read, value⟩ := readDigits_parted_of_has frontDigits backDigits nonempty has
  refine ⟨m, ?_, value⟩
  cases negative with
  | true => simp [signed, readPlain, read, Except.map]
  | false =>
    -- The first digit is not taken for a sign.
    obtain ⟨c, cs, head⟩ := List.exists_cons_of_ne_nil nonempty
    have digit := frontDigits c (head ▸ List.mem_cons_self)
    obtain ⟨rest, starts⟩ : ∃ rest, parted front back = c :: rest := by
      unfold parted
      split
      · exact ⟨cs, head⟩
      · exact ⟨cs ++ '.' :: back, by rw [head, List.cons_append]⟩
    rw [starts] at read ⊢
    simp [signed, readPlain_of_isDigit digit, read, Except.map]

theorem ofText?_of_has {front back : List Char} (frontDigits : ∀ c ∈ front, c.isDigit = true)
    (backDigits : ∀ c ∈ back, c.isDigit = true) (nonempty : front ≠ [])
    (has : Has (digitsValue (front ++ back) / 10 ^ back.length)) (negative : Bool) :
    ∃ d, ofText? (String.ofList (signed negative (parted front back))) = .ok d ∧
      d.value = if negative then -(digitsValue (front ++ back) / 10 ^ back.length : ℚ)
        else digitsValue (front ++ back) / 10 ^ back.length := by
  obtain ⟨m, plain, value⟩ := readPlain_of_has frontDigits backDigits nonempty has negative
  refine ⟨m.signed negative, by simp [ofText?, plain], ?_⟩
  rw [value_signed, value]

end Decimal

end PriceHistory
