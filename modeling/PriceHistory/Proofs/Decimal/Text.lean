import PriceHistory.Decimal.Reader
import PriceHistory.Proofs.Text.Digits

/-!
The written form of a decimal read back. Every digit and every place comes back, zeros too; only the
minus sign of a zero is lost.
-/
namespace PriceHistory.Decimal

open PriceHistory.Text

/-- The decimal that the text of a decimal is read as. -/
def readBack (d : Decimal) : Decimal :=
  d.toMagnitude.signed d.negative

/-- A zero with a minus sign. -/
def IsSignedZero (d : Decimal) : Prop :=
  d.negative = true ∧ d.coefficient = 0

instance (d : Decimal) : Decidable d.IsSignedZero :=
  inferInstanceAs (Decidable (_ ∧ _))

theorem readBack_eq_self_iff {d : Decimal} : d.readBack = d ↔ ¬d.IsSignedZero := by
  obtain ⟨magnitude, negative⟩ := d
  cases negative <;> simp [readBack, Magnitude.signed, IsSignedZero]

/-- Reading back changes no digit and no place. -/
@[simp] theorem readBack_toMagnitude (d : Decimal) : d.readBack.toMagnitude = d.toMagnitude := rfl

theorem not_isSignedZero_readBack (d : Decimal) : ¬d.readBack.IsSignedZero := by
  simp [IsSignedZero, readBack, Magnitude.signed]

@[simp] theorem readBack_readBack (d : Decimal) : d.readBack.readBack = d.readBack :=
  readBack_eq_self_iff.mpr d.not_isSignedZero_readBack

theorem le_ofDigitChars (ds : List Char) (n : Nat) : n ≤ Nat.ofDigitChars 10 ds n := by
  induction ds generalizing n with
  | nil => simp
  | cons c ds ih =>
    rw [Nat.ofDigitChars_cons]
    exact Nat.le_trans (by omega) (ih _)

/-- Digits in front of a text are taken in one after another, as long as the number that they make
up has room. -/
theorem readDigits_append (point started : Bool) (m taken : Magnitude) {ds : List Char}
    (digits : ∀ c ∈ ds, c.isDigit = true) (rest : List Char)
    (coefficient : taken.coefficient = Nat.ofDigitChars 10 ds m.coefficient)
    (scale : taken.scale = if point then m.scale + ds.length else m.scale) :
    readDigits point started m (ds ++ rest) =
      readDigits point (started || !ds.isEmpty) taken rest := by
  induction ds generalizing started m with
  | nil =>
    have same : taken = m := by
      cases taken
      cases m
      cases point <;> simp_all
    simp [same]
  | cons c ds ih =>
    have digit := digits c List.mem_cons_self
    have room := taken.scale_le
    -- The number with all digits has room for its places and for its coefficient.
    have notFull : ¬(point = true ∧ m.scale = maxScale) := by
      rintro ⟨pointed, full⟩
      simp only [pointed, if_true, List.length_cons] at scale
      omega
    rw [Nat.ofDigitChars_cons] at coefficient
    have value : digitsValue [c] = c.toNat - '0'.toNat := by
      simp [digitsValue, Nat.ofDigitChars_cons]
    have fits : m.coefficient * 10 + digitsValue [c] < coefficientLimit := by
      have := taken.fits
      have := le_ofDigitChars ds (10 * m.coefficient + (c.toNat - '0'.toNat))
      omega
    rw [List.cons_append, readDigits, dif_neg notFull, if_pos digit]
    dsimp only
    rw [dif_pos fits]
    rw [ih _ _ (fun d member => digits d (List.mem_cons_of_mem c member))]
    · simp
    · dsimp only
      rw [coefficient, value, Nat.mul_comm]
    · cases point with
      | false => simpa using scale
      | true =>
        simp only [if_true, List.length_cons] at scale ⊢
        omega

private theorem readDigits_whole {m : Magnitude} {ds : List Char}
    (digits : ∀ c ∈ ds, c.isDigit = true) (nonempty : ds ≠ [])
    (value : m.coefficient = Nat.ofDigitChars 10 ds 0) (whole : m.scale = 0) :
    readDigits false false .zero ds = .ok m := by
  have read := readDigits_append false false .zero m digits [] value whole
  rw [List.append_nil, List.isEmpty_eq_false_iff.mpr nonempty] at read
  rw [read]
  rfl

private theorem readDigits_parted {m : Magnitude} {front back : List Char}
    (frontDigits : ∀ c ∈ front, c.isDigit = true) (backDigits : ∀ c ∈ back, c.isDigit = true)
    (nonempty : front ≠ [])
    (value : m.coefficient = Nat.ofDigitChars 10 back (Nat.ofDigitChars 10 front 0))
    (scale : m.scale = back.length) :
    readDigits false false .zero (front ++ '.' :: back) = .ok m := by
  -- The digits before the point have room, since all of them have.
  have fits : Nat.ofDigitChars 10 front 0 < coefficientLimit :=
    Nat.lt_of_le_of_lt (value ▸ le_ofDigitChars back _) m.fits
  let taken : Magnitude := ⟨_, 0, fits, Nat.zero_le maxScale⟩
  have readFront := readDigits_append false false .zero taken frontDigits ('.' :: back) rfl rfl
  have readBack := readDigits_append true true taken m backDigits [] value
    (scale.trans (Nat.zero_add _).symm)
  rw [List.append_nil] at readBack
  rw [readFront, List.isEmpty_eq_false_iff.mpr nonempty]
  simp only [Bool.not_false, Bool.or_true]
  rw [readDigits]
  simp [show Char.isDigit '.' = false from rfl, readBack, readDigits]

/-- The digits of a magnitude, with the point among them, are read back. -/
theorem readDigits_digitsText (m : Magnitude) :
    readDigits false false .zero (digitsText m.scale m.coefficient) = .ok m := by
  have digits : ∀ c ∈ padded (m.scale + 1) m.coefficient, c.isDigit = true :=
    fun _ => isDigit_of_mem_padded
  have value := digitsValue_padded (m.scale + 1) m.coefficient
  have long := le_length_padded (m.scale + 1) m.coefficient
  simp only [digitsText]
  generalize padded (m.scale + 1) m.coefficient = ds at digits value long
  by_cases whole : m.scale = 0
  · rw [if_pos whole]
    have nonempty : ds ≠ [] := List.ne_nil_of_length_pos (by omega)
    exact readDigits_whole digits nonempty value.symm whole
  · rw [if_neg whole]
    apply readDigits_parted
    · exact fun c member => digits c (List.mem_of_mem_take member)
    · exact fun c member => digits c (List.mem_of_mem_drop member)
    · apply List.ne_nil_of_length_pos
      rw [List.length_take]
      omega
    · rw [← Nat.ofDigitChars_append, List.take_append_drop]
      exact value.symm
    · rw [List.length_drop]
      omega

private theorem digitsText_head (scale n : Nat) :
    ∃ c cs, digitsText scale n = c :: cs ∧ c.isDigit = true := by
  have long := le_length_padded (scale + 1) n
  obtain ⟨c, cs, starts, digit⟩ := exists_padded_eq_cons (scale + 1) n
  rw [starts] at long
  by_cases whole : scale = 0
  · exact ⟨c, cs, by simp only [digitsText, starts, if_pos whole], digit⟩
  · obtain ⟨count, positive⟩ : ∃ count, (c :: cs).length - scale = count + 1 :=
      ⟨(c :: cs).length - scale - 1, by omega⟩
    refine ⟨c, cs.take count ++ '.' :: (c :: cs).drop (count + 1), ?_, digit⟩
    simp only [digitsText, starts, if_neg whole, positive, List.take_succ_cons, List.cons_append]

theorem readPlain_of_isDigit {c : Char} (digit : c.isDigit = true) (cs : List Char) :
    readPlain (c :: cs) = (readDigits false false .zero (c :: cs)).map fun m => (false, m) := by
  unfold readPlain
  split
  next none => cases none
  next minus =>
    obtain ⟨rfl, rfl⟩ := List.cons.inj minus
    cases digit
  next plus =>
    obtain ⟨rfl, rfl⟩ := List.cons.inj plus
    cases digit
  · rfl

/-- Every decimal's text can be read. -/
@[simp] theorem ofText?_text (d : Decimal) : ofText? d.text = .ok d.readBack := by
  have read := readDigits_digitsText d.toMagnitude
  have plain : readPlain d.text.toList = .ok (d.negative, d.toMagnitude) := by
    cases sign : d.negative with
    | true => simp [text, sign, readPlain, read, Except.map]
    | false =>
      obtain ⟨c, cs, head, digit⟩ := digitsText_head d.scale d.coefficient
      rw [head] at read
      simp [text, sign, head, readPlain_of_isDigit digit, read, Except.map]
  simp [ofText?, plain, readBack]

end PriceHistory.Decimal
