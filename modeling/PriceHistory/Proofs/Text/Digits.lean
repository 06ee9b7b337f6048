import Mathlib.Algebra.Order.Ring.Nat
import PriceHistory.Text.Blank
import PriceHistory.Text.Digits

/-!
Numerals read back. A padded numeral consists of digits alone and stands for its number; where it is
followed by something else, reading a number returns both.
-/
namespace PriceHistory.Text

/-- What holds of a text by going through it. The statement over its members would be decided by going
through all characters there are. -/
theorem forall_mem_of_all {cs : List Char} {p : Char → Prop} [DecidablePred p] (all : cs.all p = true) :
    ∀ c ∈ cs, p c := by
  simpa using all

theorem isDigit_of_mem_padded {width n : Nat} {c : Char} (member : c ∈ padded width n) :
    c.isDigit = true := by
  simp only [padded, List.leftpad, List.mem_append] at member
  rcases member with zero | digit
  · rw [List.eq_of_mem_replicate zero]
    rfl
  · exact Nat.isDigit_of_mem_toDigits (by decide) (by decide) digit

theorem padded_ne_nil (width n : Nat) : padded width n ≠ [] := by
  simp [padded, List.leftpad, Nat.toDigits_ne_nil]

@[simp] theorem digitsValue_padded (width n : Nat) : digitsValue (padded width n) = n := by
  simp [digitsValue, padded, List.leftpad, Nat.ofDigitChars_append, Nat.ofDigitChars_replicate_zero]

theorem length_padded {width n : Nat} (positive : 0 < width) (fits : n < Nat.pow 10 width) :
    (padded width n).length = width := by
  have short := (Nat.length_toDigits_le_iff (by decide) positive).mpr fits
  simp only [padded, List.leftpad, List.length_append, List.length_replicate]
  omega

theorem le_length_padded (width n : Nat) : width ≤ (padded width n).length := by
  simp only [padded, List.leftpad, List.length_append, List.length_replicate]
  omega

/-- A padded numeral starts with a digit. -/
theorem exists_padded_eq_cons (width n : Nat) :
    ∃ c cs, padded width n = c :: cs ∧ c.isDigit = true := by
  obtain ⟨c, cs, starts⟩ := List.exists_cons_of_ne_nil (padded_ne_nil width n)
  refine ⟨c, cs, starts, ?_⟩
  apply isDigit_of_mem_padded
  rw [starts]
  exact List.mem_cons_self

theorem isDigit_iff {c : Char} : c.isDigit = true ↔ 48 ≤ c.toNat ∧ c.toNat ≤ 57 := by
  simp only [Char.isDigit, Bool.and_eq_true, decide_eq_true_eq, ge_iff_le, UInt32.le_iff_toNat_le]
  rfl

/-! ### The number of a run of digits -/

theorem digitsValue_append (front back : List Char) :
    digitsValue (front ++ back) = digitsValue front * 10 ^ back.length + digitsValue back := by
  rw [digitsValue, Nat.ofDigitChars_append, Nat.ofDigitChars_eq_ofDigitChars_zero, Nat.mul_comm]
  rfl

theorem digitsValue_cons (c : Char) (ds : List Char) :
    digitsValue (c :: ds) = (c.toNat - 48) * 10 ^ ds.length + digitsValue ds := by
  have one : digitsValue [c] = c.toNat - 48 := by
    simp [digitsValue, Nat.ofDigitChars_cons]
  rw [← List.singleton_append, digitsValue_append, one]

theorem digitsValue_lt {ds : List Char} (digits : ∀ c ∈ ds, c.isDigit = true) :
    digitsValue ds < 10 ^ ds.length := by
  induction ds with
  | nil => exact Nat.one_pos
  | cons c ds ih =>
    have later := ih fun d member => digits d (List.mem_cons_of_mem c member)
    have range := isDigit_iff.mp (digits c List.mem_cons_self)
    have first : (c.toNat - 48) * 10 ^ ds.length ≤ 9 * 10 ^ ds.length :=
      Nat.mul_le_mul_right _ (by omega)
    rw [digitsValue_cons, List.length_cons, pow_succ]
    omega

/-- Of two runs of digits that are equally long, each stands for a number of its own. -/
theorem digitsValue_inj {ds es : List Char} (digits : ∀ c ∈ ds, c.isDigit = true)
    (digits' : ∀ c ∈ es, c.isDigit = true) (long : ds.length = es.length) :
    digitsValue ds = digitsValue es ↔ ds = es := by
  refine ⟨fun same => ?_, congrArg digitsValue⟩
  induction ds generalizing es with
  | nil => exact (List.length_eq_zero_iff.mp long.symm).symm
  | cons c ds ih =>
    cases es with
    | nil => cases long
    | cons e es =>
      have long : ds.length = es.length := Nat.succ.inj long
      have rest : ∀ d ∈ ds, d.isDigit = true := fun d member => digits d (List.mem_cons_of_mem c member)
      have rest' : ∀ d ∈ es, d.isDigit = true := fun d member => digits' d (List.mem_cons_of_mem e member)
      -- What follows the first digit makes up less than one unit of it.
      have small := digitsValue_lt rest
      have small' := digitsValue_lt rest'
      rw [digitsValue_cons, digitsValue_cons, ← long] at same
      rw [← long] at small'
      have later : digitsValue ds = digitsValue es := by
        rw [← Nat.mul_add_mod_of_lt small, same, Nat.mul_add_mod_of_lt small']
      rw [later] at same
      have first : c.toNat - 48 = e.toNat - 48 :=
        Nat.eq_of_mul_eq_mul_right (Nat.pow_pos (by decide)) (Nat.add_right_cancel same)
      have range := isDigit_iff.mp (digits c List.mem_cons_self)
      have range' := isDigit_iff.mp (digits' e List.mem_cons_self)
      have same : c = e := Char.toNat_inj.mp (by omega)
      rw [same, ih rest rest' long later]

/-- A run of digits is the numeral of its number, with zeros in front up to its length. -/
theorem padded_digitsValue {ds : List Char} (digits : ∀ c ∈ ds, c.isDigit = true)
    (nonempty : ds ≠ []) : padded ds.length (digitsValue ds) = ds := by
  have long := length_padded (List.length_pos_iff.mpr nonempty) (digitsValue_lt digits)
  exact (digitsValue_inj (fun _ => isDigit_of_mem_padded) digits long).mp (digitsValue_padded _ _)

/-- Digits with a point before the last of them, or without a point where nothing would follow it. -/
def parted (front back : List Char) : List Char :=
  if back = [] then front else front ++ '.' :: back

/-! ### Reading -/

theorem isBlank_of_isDigit {c : Char} (digit : c.isDigit = true) : isBlank c = false := by
  have range := isDigit_iff.mp digit
  simp only [isBlank, Bool.or_eq_false_iff, Bool.and_eq_false_iff, decide_eq_false_iff_not,
    beq_eq_false_iff_ne]
  omega

/-- A text that starts with digits has no blanks to drop. -/
theorem dropBlanks_append {ds rest : List Char} (digits : ∀ c ∈ ds, c.isDigit = true)
    (nonempty : ds ≠ []) : dropBlanks (ds ++ rest) = ds ++ rest := by
  cases ds with
  | nil => exact absurd rfl nonempty
  | cons c ds =>
    have kept := isBlank_of_isDigit (digits c List.mem_cons_self)
    simp [dropBlanks, kept]

theorem leadingDigits_append {ds rest : List Char} (digits : ∀ c ∈ ds, c.isDigit = true)
    (stops : ∀ c ∈ rest.head?, c.isDigit = false) : leadingDigits (ds ++ rest) = ds := by
  unfold leadingDigits
  rw [List.takeWhile_append_of_pos digits]
  cases rest with
  | nil => simp
  | cons c rest => simp [stops c rfl]

/-- A run of digits is read whole where it reaches the limit, and where something else follows. -/
theorem number?_append {limit : Nat} {ds rest : List Char} (digits : ∀ c ∈ ds, c.isDigit = true)
    (nonempty : ds ≠ []) (within : ds.length ≤ limit)
    (stops : ds.length = limit ∨ ∀ c ∈ rest.head?, c.isDigit = false) :
    number? limit (ds ++ rest) = some (digitsValue ds, rest) := by
  have run : leadingDigits ((ds ++ rest).take limit) = ds := by
    rw [List.take_append, List.take_of_length_le within]
    apply leadingDigits_append digits
    intro c first
    -- Either the limit cuts the rest off, or what is left of it starts with no digit.
    rcases stops with full | other
    · simp [full] at first
    · apply other c
      cases rest with
      | nil => simp at first
      | cons d rest =>
        cases room : limit - ds.length with
        | zero => simp [room] at first
        | succ n => simpa [room] using first
  unfold number?
  rw [run]
  cases ds with
  | nil => exact absurd rfl nonempty
  | cons c ds => simp

/-- A numeral that fills its width is read back, whatever follows it. -/
theorem number?_padded {width n : Nat} (positive : 0 < width) (fits : n < Nat.pow 10 width)
    (rest : List Char) : number? width (dropBlanks (padded width n ++ rest)) = some (n, rest) := by
  have digits : ∀ c ∈ padded width n, c.isDigit = true := fun _ => isDigit_of_mem_padded
  have full : (padded width n).length = width := length_padded positive fits
  rw [dropBlanks_append digits (padded_ne_nil width n),
    number?_append digits (padded_ne_nil width n) (Nat.le_of_eq full) (.inl full),
    digitsValue_padded]

end PriceHistory.Text
