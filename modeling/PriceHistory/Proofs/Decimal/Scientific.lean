import PriceHistory.Proofs.Decimal.Value

/-!
Decimals with a power of ten. Where the digits alone are a decimal, and the power has up to 28 places, the
whole is read as a decimal of its value if there is one.
-/
namespace PriceHistory

open PriceHistory.Text PriceHistory.Decimal

/-! ### Moving the point -/

namespace Magnitude

variable {m q : Magnitude}

/-- Places that hold zeros are given up without rounding. -/
theorem value_withPlaces {places : ℕ} (zeros : 10 ^ (m.scale - places) ∣ m.coefficient) :
    (m.withPlaces places).value = m.value := by
  unfold withPlaces
  split
  · rfl
  next more =>
    obtain ⟨c, coefficient⟩ := zeros
    obtain ⟨less, scale⟩ := Nat.exists_eq_add_of_lt (Nat.lt_of_not_le more)
    have exponent : m.scale - places = less + 1 := by omega
    rw [exponent, pow_succ] at coefficient
    -- One dropped digit is kept for the rounding, and is zero.
    have tenfold : m.coefficient / Nat.pow 10 (m.scale - places - 1) = 10 * c := by
      rw [exponent, Nat.add_sub_cancel, coefficient, mul_assoc]
      exact Nat.mul_div_cancel_left _ (Nat.pow_pos (by decide))
    have rounded : (10 * c + 5) / 10 = c := by omega
    simp only [value, tenfold, rounded]
    rw [coefficient, scale]
    push_cast
    rw [pow_add, pow_add]
    field_simp

theorem exists_shiftDown {exponent : ℕ} (moderate : exponent ≤ maxScale)
    (has : q.value = m.value / 10 ^ exponent) :
    ∃ shifted, m.shiftDown exponent = .ok shifted ∧ shifted.value = m.value / 10 ^ exponent := by
  have zeros : 10 ^ (m.scale - (maxScale - exponent)) ∣ m.coefficient := by
    have same : q.coefficient * 10 ^ (m.scale + exponent) = m.coefficient * 10 ^ q.scale := by
      rw [value, value, div_div, ← pow_add, div_eq_div_iff (by positivity) (by positivity)] at has
      exact_mod_cast has
    have scale := q.scale_le
    -- Places beyond 28 are zeros, since `q` does without them.
    rcases Nat.le_total (m.scale + exponent) maxScale with fits | more
    · rw [show m.scale - (maxScale - exponent) = 0 by omega]
      exact one_dvd _
    · obtain ⟨less, places⟩ := Nat.exists_eq_add_of_le (scale.trans more)
      rw [places, pow_add, ← mul_assoc, Nat.mul_right_comm] at same
      have multiple := Nat.eq_of_mul_eq_mul_right (Nat.pow_pos (by decide)) same
      rw [← multiple]
      exact Dvd.dvd.mul_left (pow_dvd_pow 10 (by omega)) _
  unfold shiftDown
  rw [dif_pos moderate]
  refine ⟨_, rfl, ?_⟩
  rw [← value_withPlaces zeros, value, value, div_div, ← pow_add]

theorem exists_shiftUp {exponent : ℕ} (moderate : exponent ≤ maxScale)
    (has : q.value = m.value * 10 ^ exponent) :
    ∃ shifted, m.shiftUp exponent = .ok shifted ∧ shifted.value = m.value * 10 ^ exponent := by
  unfold shiftUp
  by_cases inside : exponent ≤ m.scale
  · obtain ⟨less, scale⟩ := Nat.exists_eq_add_of_le inside
    rw [if_pos inside]
    refine ⟨_, rfl, ?_⟩
    simp only [value, scale, Nat.add_sub_cancel_left, pow_add]
    field_simp
  · obtain ⟨more, scale⟩ := Nat.exists_eq_add_of_le (Nat.le_of_not_le inside)
    have whole : m.value * 10 ^ exponent = m.coefficient * 10 ^ more := by
      rw [value, scale, pow_add]
      field_simp
    -- The value is whole, so the coefficient of `q` is no smaller.
    have fits : m.coefficient * 10 ^ more < coefficientLimit := by
      refine lt_of_le_of_lt ?_ q.fits
      rw [whole, value, div_eq_iff (by positivity)] at has
      have has : q.coefficient = m.coefficient * 10 ^ more * 10 ^ q.scale := by exact_mod_cast has
      rw [has]
      exact Nat.le_mul_of_pos_right _ (Nat.pow_pos (by decide))
    have gap : exponent - m.scale = more := by omega
    rw [if_neg inside, if_neg (by omega), dif_pos (by rw [gap]; exact fits)]
    refine ⟨_, rfl, ?_⟩
    rw [whole]
    simp [value, gap]

end Magnitude

namespace Decimal

/-! ### The characters of a plain number -/

/-- Is this a digit, a separator or a point? -/
def isPlain (c : Char) : Bool :=
  c.isDigit || c == '_' || c == '.'

theorem isPlain_of_checkDropped {cs : List Char} (read : checkDropped cs = .ok ()) :
    ∀ c ∈ cs, isPlain c = true := by
  induction cs with
  | nil => simp
  | cons c cs ih =>
    rw [checkDropped] at read
    split at read
    next passed => exact List.forall_mem_cons.mpr ⟨by rw [isPlain, passed, Bool.true_or], ih read⟩
    · cases read

theorem isPlain_of_roundAt {m taken : Magnitude} {cs : List Char} (read : roundAt m cs = .ok taken) :
    ∀ c ∈ cs, isPlain c = true := by
  induction cs with
  | nil => simp
  | cons c cs ih =>
    rw [roundAt] at read
    by_cases digit : c.isDigit = true
    · rw [if_pos digit] at read
      have passed : checkDropped cs = .ok () := by
        cases dropped : checkDropped cs with
        | ok => rfl
        | error e =>
          simp only [dropped, bind, Except.bind] at read
          split at read
          · cases rounded : m.roundUp <;> rw [rounded] at read <;> cases read
          · cases read
      exact List.forall_mem_cons.mpr ⟨by rw [isPlain, digit]; rfl, isPlain_of_checkDropped passed⟩
    · rw [if_neg digit] at read
      split at read
      next mark =>
        refine List.forall_mem_cons.mpr ⟨by rw [mark]; rfl, ?_⟩
        split at read
        · cases dropped : checkDropped cs with
          | ok => exact isPlain_of_checkDropped dropped
          | error e =>
            rw [dropped] at read
            cases read
        · exact ih read
      · cases read

/-- What is read without a power of ten has digits, separators and points only. -/
theorem isPlain_of_readDigits {point started : Bool} {m taken : Magnitude} {cs : List Char}
    (read : readDigits point started m cs = .ok taken) : ∀ c ∈ cs, isPlain c = true := by
  induction cs generalizing point started m with
  | nil => simp
  | cons c cs ih =>
    rw [readDigits] at read
    split at read
    · exact isPlain_of_roundAt read
    · split at read
      next digit =>
        dsimp only at read
        split at read
        · exact List.forall_mem_cons.mpr ⟨by rw [isPlain, digit]; rfl, ih read⟩
        · split at read
          · exact isPlain_of_roundAt read
          · cases read
      · split at read
        next mark =>
          split at read
          · cases read
          · exact List.forall_mem_cons.mpr ⟨by rw [mark]; rfl, ih read⟩
        · split at read
          next mark =>
            split at read
            · exact List.forall_mem_cons.mpr ⟨by rw [mark]; rfl, ih read⟩
            · cases read
          · cases read

/-- Neither a plain number nor its sign has a letter of an exponent in it. -/
theorem not_isExponentLetter_of_isPlain {c : Char} (plain : isPlain c = true) :
    isExponentLetter c = false := by
  rw [Bool.eq_false_iff]
  intro letter
  simp only [isExponentLetter, Bool.or_eq_true, beq_iff_eq] at letter
  rcases letter with rfl | rfl <;> cases plain

theorem exists_readPlain_of_letter {cs : List Char} {letter : Char} (member : letter ∈ cs)
    (marks : isExponentLetter letter = true) : ∃ e, readPlain cs = .error e := by
  have refused {negative : Bool} {rest : List Char} (later : letter ∈ rest) :
      ∃ e, (readDigits false false .zero rest).map (fun m => (negative, m)) = .error e := by
    cases read : readDigits false false .zero rest with
    | error e => exact ⟨e, rfl⟩
    | ok m =>
      rw [not_isExponentLetter_of_isPlain (isPlain_of_readDigits read letter later)] at marks
      cases marks
  unfold readPlain
  split
  · cases member
  · refine refused ((List.mem_cons.mp member).resolve_left ?_)
    rintro rfl
    cases marks
  · refine refused ((List.mem_cons.mp member).resolve_left ?_)
    rintro rfl
    cases marks
  · exact refused member

/-! ### Powers of ten -/

theorem readExponent_eq {ds : List Char} (digits : ∀ c ∈ ds, c.isDigit = true) (nonempty : ds ≠ [])
    (moderate : digitsValue ds ≤ maxScale) (plus : Bool) :
    readExponent (if plus then '+' :: ds else ds) = .ok (digitsValue ds) := by
  have small : digitsValue ds < 4294967296 := lt_of_le_of_lt moderate (by decide)
  cases plus with
  | true => exact if_pos ⟨nonempty, List.all_eq_true.mpr digits, small⟩
  | false =>
    -- A digit is no plus, so nothing is taken off.
    obtain ⟨c, cs, rfl⟩ := List.exists_cons_of_ne_nil nonempty
    have unsigned : c ≠ '+' := by
      rintro rfl
      cases digits '+' List.mem_cons_self
    simpa [readExponent, unsigned, small] using digits

variable {base ds : List Char} {letter : Char} {negative : Bool} {m : Magnitude}

/-- A number with a power of ten is parted at the letter. -/
theorem ofText?_parted (marks : isExponentLetter letter = true) (read : readPlain base = .ok (negative, m))
    (rest : List Char) : ofText? (String.ofList (base ++ letter :: rest)) =
      (match rest with
        | '-' :: exponent => do
          let shifted ← m.shiftDown (← readExponent exponent)
          return ⟨shifted, negative && m.coefficient != 0⟩
        | exponent => do
          let shifted ← m.shiftUp (← readExponent exponent)
          return shifted.signed negative) := by
  have inside : letter ∈ base ++ letter :: rest := List.mem_append_right _ List.mem_cons_self
  -- As a plain number the whole is refused, since it has a letter; what was read of it has none.
  obtain ⟨e, refused⟩ := exists_readPlain_of_letter inside marks
  have found : (base ++ letter :: rest).any isExponentLetter = true :=
    List.any_eq_true.mpr ⟨letter, inside, marks⟩
  have before : ∀ c ∈ base, !isExponentLetter c := by
    intro c member
    cases other : isExponentLetter c with
    | false => rfl
    | true =>
      obtain ⟨e, refused⟩ := exists_readPlain_of_letter member other
      rw [read] at refused
      cases refused
  have front : (base ++ letter :: rest).takeWhile (fun c => !isExponentLetter c) = base := by
    rw [List.takeWhile_append_of_pos before]
    simp [marks]
  have back : (base ++ letter :: rest).dropWhile (fun c => !isExponentLetter c) = letter :: rest := by
    rw [List.dropWhile_append_of_pos before]
    simp [marks]
  simp only [ofText?, String.toList_ofList, refused, found, if_true, readScientific, front, back, read]
  rfl

theorem ofText?_below_of_has (marks : isExponentLetter letter = true)
    (read : readPlain base = .ok (negative, m)) (digits : ∀ c ∈ ds, c.isDigit = true) (nonempty : ds ≠ [])
    (moderate : digitsValue ds ≤ maxScale) (has : Has (m.value / 10 ^ digitsValue ds)) :
    ∃ d, ofText? (String.ofList (base ++ letter :: '-' :: ds)) = .ok d ∧
      d.value = if negative then -(m.value / 10 ^ digitsValue ds) else m.value / 10 ^ digitsValue ds := by
  obtain ⟨q, same⟩ := exists_magnitude_of_has has
  rw [abs_of_nonneg (div_nonneg m.value_nonneg (by positivity))] at same
  obtain ⟨shifted, moved, value⟩ := Magnitude.exists_shiftDown moderate same
  have exponent := readExponent_eq digits nonempty moderate false
  rw [if_neg Bool.false_ne_true] at exponent
  rw [ofText?_parted marks read]
  refine ⟨⟨shifted, negative && m.coefficient != 0⟩, ?_, ?_⟩
  · simp only [exponent, bind, Except.bind, moved, pure, Except.pure]
  · rw [value_eq]
    dsimp only
    rw [value]
    -- The sign is that of the digits before the shift, and a zero has none.
    by_cases zero : m.coefficient = 0
    · simp [Magnitude.value, zero]
    · cases negative <;> simp [zero]

theorem ofText?_above_of_has (marks : isExponentLetter letter = true)
    (read : readPlain base = .ok (negative, m)) (digits : ∀ c ∈ ds, c.isDigit = true) (nonempty : ds ≠ [])
    (moderate : digitsValue ds ≤ maxScale) (has : Has (m.value * 10 ^ digitsValue ds)) (plus : Bool) :
    ∃ d, ofText? (String.ofList (base ++ letter :: if plus then '+' :: ds else ds)) = .ok d ∧
      d.value = if negative then -(m.value * 10 ^ digitsValue ds) else m.value * 10 ^ digitsValue ds := by
  obtain ⟨q, same⟩ := exists_magnitude_of_has has
  rw [abs_of_nonneg (mul_nonneg m.value_nonneg (by positivity))] at same
  obtain ⟨shifted, moved, value⟩ := Magnitude.exists_shiftUp moderate same
  have exponent := readExponent_eq digits nonempty moderate plus
  have unsigned : ∀ rest, (if plus then '+' :: ds else ds) ≠ '-' :: rest := by
    rintro rest starts
    cases plus with
    | true => cases starts
    | false =>
      rw [if_neg Bool.false_ne_true] at starts
      cases digits '-' (starts ▸ List.mem_cons_self)
  rw [ofText?_parted marks read]
  refine ⟨shifted.signed negative, ?_, by rw [value_signed, value]⟩
  split
  next rest starts => exact absurd starts (unsigned rest)
  next => simp only [exponent, bind, Except.bind, moved, pure, Except.pure]

end Decimal

end PriceHistory
