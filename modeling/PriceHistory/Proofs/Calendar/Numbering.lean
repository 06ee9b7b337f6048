import Mathlib.Data.List.Chain
import PriceHistory.Proofs.Calendar.Steps

/-!
The numbers of days. From each day to the next the number goes up by one, over the ends of months and of
years too. So days are ordered as their numbers are, a step back by days is a subtraction of numbers, and
the days of a window are counted by a difference of numbers.
-/
namespace PriceHistory.Calendar

theorem isLeap_iff (year : Int) :
    isLeap year = true ↔ year % 4 = 0 ∧ (year % 100 ≠ 0 ∨ year % 400 = 0) := by
  simp [isLeap]

namespace Date

/-! ### Months and years -/

theorem daysBeforeMonth_succ (year : Int) (month : Nat) (positive : 1 ≤ month) :
    daysBeforeMonth year (month + 1) = daysBeforeMonth year month + daysIn year month := by
  obtain ⟨earlier, rfl⟩ := Nat.exists_eq_add_of_le' positive
  simp only [daysBeforeMonth, Nat.add_sub_cancel]
  rw [List.range'_1_concat, List.foldl_append, Nat.add_comm 1 earlier]
  rfl

theorem daysBeforeMonth_december (year : Int) :
    daysBeforeMonth year 12 = if isLeap year then 335 else 334 := by
  unfold daysBeforeMonth
  cases leap : isLeap year <;> simp [List.range', daysIn, leap]

/-- A year ends with its December. -/
theorem daysBeforeYear_succ (year : Int) :
    daysBeforeYear (year + 1) = daysBeforeYear year + daysBeforeMonth year 12 + 31 := by
  have leap := isLeap_iff year
  rw [daysBeforeMonth_december, daysBeforeYear, daysBeforeYear]
  -- The quotients by 4, 100 and 400 count the leap years that are over; they change after a leap year.
  split
  next yes =>
    have := leap.mp yes
    omega
  next no =>
    have := mt leap.mpr no
    omega

/-! ### Days -/

theorem dayNumber_of_pred? {d p : Date} (before : d.pred? = some p) : p.dayNumber + 1 = d.dayNumber := by
  have := d.month_mem
  have := d.day_mem
  unfold pred? at before
  simp only [dayNumber]
  split at before
  · obtain ⟨year, month, day⟩ := of?_eq_some_iff.mp before
    rw [year, month, day]
    omega
  · split at before
    -- From the first of a month the step leads to the end of the month before it.
    · obtain ⟨year, month, day⟩ := of?_eq_some_iff.mp before
      have whole := daysBeforeMonth_succ d.year (d.month - 1) (by omega)
      rw [Nat.sub_add_cancel (by omega)] at whole
      rw [year, month, day]
      omega
    -- From the first of a year the step leads to the end of the year before it.
    · obtain ⟨year, month, day⟩ := of?_eq_some_iff.mp before
      have whole := daysBeforeYear_succ (d.year - 1)
      have january : d.month = 1 := by omega
      have nothing : daysBeforeMonth d.year 1 = 0 := rfl
      rw [Int.sub_add_cancel] at whole
      rw [year, month, day, january, nothing]
      omega

theorem dayNumber_lt {a b : Date} (earlier : a < b) : a.dayNumber < b.dayNumber := by
  -- Each step back from `b` lowers the number, and the walk comes to `a`.
  induction b using daysBack.induct a with
  | case1 b after ih =>
    obtain ⟨p, found, upTo⟩ := exists_pred?_of_lt after
    have step := dayNumber_of_pred? found
    rcases upTo.lt_or_eq with further | rfl
    · have := ih p found further
      omega
    · omega
  | case2 b notAfter => exact absurd earlier notAfter

/-- Days are ordered as their numbers are. -/
theorem lt_iff_dayNumber {a b : Date} : a < b ↔ a.dayNumber < b.dayNumber := by
  refine ⟨dayNumber_lt, fun lower => ?_⟩
  rcases lt_trichotomy a b with before | rfl | after
  · exact before
  · omega
  · have := dayNumber_lt after
    omega

theorem le_iff_dayNumber {a b : Date} : a ≤ b ↔ a.dayNumber ≤ b.dayNumber := by
  rw [← not_lt, lt_iff_dayNumber, Int.not_lt]

theorem dayNumber_inj {a b : Date} : a.dayNumber = b.dayNumber ↔ a = b := by
  rw [le_antisymm_iff (a := a), le_iff_dayNumber, le_iff_dayNumber]
  omega

theorem pred?_eq_none_iff {d : Date} : d.pred? = none ↔ d = earliest := by
  constructor
  · intro first
    exact le_antisymm (not_lt.mp (not_lt_of_pred?_eq_none first)) (earliest_le d)
  · rintro rfl
    decide

theorem minusDays?_eq_some_iff {n : Nat} {d p : Date} :
    d.minusDays? n = some p ↔ p.dayNumber = d.dayNumber - n := by
  induction n generalizing d with
  | zero =>
    rw [minusDays?, Option.some_inj, ← dayNumber_inj, eq_comm]
    simp
  | succ n ih =>
    rw [minusDays?, Option.bind_eq_some_iff]
    constructor
    · rintro ⟨q, before, further⟩
      have := dayNumber_of_pred? before
      have := ih.mp further
      omega
    · intro number
      have earlier : p < d := lt_iff_dayNumber.mpr (by omega)
      obtain ⟨q, before, _⟩ := exists_pred?_of_lt earlier
      have := dayNumber_of_pred? before
      exact ⟨q, before, ih.mpr (by omega)⟩

theorem minusDays?_eq_none_iff {n : Nat} {d : Date} :
    d.minusDays? n = none ↔ d.dayNumber - n < earliest.dayNumber := by
  induction n generalizing d with
  | zero =>
    have := le_iff_dayNumber.mp (earliest_le d)
    refine iff_of_false (fun nothing => nomatch nothing) ?_
    omega
  | succ n ih =>
    rw [minusDays?]
    cases before : d.pred? with
    | none =>
      -- From the earliest date every step leads out of the calendar.
      refine iff_of_true rfl ?_
      rw [pred?_eq_none_iff.mp before]
      omega
    | some q =>
      have := dayNumber_of_pred? before
      rw [Option.bind_some, ih]
      omega

/-! ### Steps that the calendar may cut short -/

/-- `p` is `n` months before `d`: on the same day of that month, or on its last day where it is shorter, or the
earliest date where the month lies before the calendar. -/
def IsMonthsBefore (n : Nat) (p d : Date) : Prop :=
  (p.monthNumber = d.monthNumber - n ∧ p.day = min d.day (daysIn p.year p.month)) ∨
    d.monthNumber - n < earliest.monthNumber ∧ p = earliest

instance (n : Nat) (p d : Date) : Decidable (IsMonthsBefore n p d) :=
  inferInstanceAs (Decidable (_ ∨ _))

/-- `p` is `n` days before `d`, or the earliest date where that day lies before the calendar. -/
def IsDaysBefore (n : Nat) (p d : Date) : Prop :=
  p.dayNumber = d.dayNumber - n ∨ d.dayNumber - n < earliest.dayNumber ∧ p = earliest

instance (n : Nat) (p d : Date) : Decidable (IsDaysBefore n p d) :=
  inferInstanceAs (Decidable (_ ∨ _))

theorem minusMonths?_getD_eq_iff {n : Nat} {d p : Date} :
    (d.minusMonths? n).getD earliest = p ↔ IsMonthsBefore n p d := by
  have first : earliest.monthNumber = 12 * firstYear := rfl
  rw [Option.getD_eq_iff, minusMonths?_eq_some_iff, minusMonths?_eq_none_iff, ← first, eq_comm (a := earliest)]
  rfl

theorem minusDays?_getD_eq_iff {n : Nat} {d p : Date} :
    (d.minusDays? n).getD earliest = p ↔ IsDaysBefore n p d := by
  rw [Option.getD_eq_iff, minusDays?_eq_some_iff, minusDays?_eq_none_iff, eq_comm (a := earliest)]
  rfl

/-! ### The days of a window -/

theorem eq_of_mem_head?_daysBack {d anchor bound : Date} (first : d ∈ (daysBack anchor bound).head?) :
    d = anchor := by
  rw [daysBack] at first
  split at first
  · exact (Option.some.inj first).symm
  · cases first

theorem isChain_daysBack (anchor bound : Date) :
    (daysBack anchor bound).IsChain fun newer older => newer.pred? = some older := by
  induction anchor using daysBack.induct bound with
  | case1 anchor inside ih =>
    rw [daysBack, if_pos inside]
    split
    next before found =>
      -- The rest, if there is any, begins with the day before.
      refine (ih before found).cons fun older first => ?_
      rw [eq_of_mem_head?_daysBack first]
      exact found
    next => exact .singleton _
  | case2 anchor outside =>
    rw [daysBack, if_neg outside]
    exact .nil

theorem length_daysBack (anchor bound : Date) :
    (daysBack anchor bound).length = (anchor.dayNumber - bound.dayNumber).toNat := by
  induction anchor using daysBack.induct bound with
  | case1 anchor inside ih =>
    rw [daysBack, if_pos inside, List.length_cons]
    split
    next before found =>
      have step := dayNumber_of_pred? found
      have upTo := le_iff_dayNumber.mp ((lt_iff_le_of_pred? found).mp inside)
      rw [ih before found]
      omega
    next first => exact absurd inside (not_lt_of_pred?_eq_none first)
  | case2 anchor outside =>
    have notAfter := le_iff_dayNumber.mp (not_lt.mp outside)
    rw [daysBack, if_neg outside, List.length_nil]
    omega

end Date

end PriceHistory.Calendar
