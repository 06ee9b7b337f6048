import PriceHistory.Proofs.Calendar.Order

/-!
Stepping back by days and by months. A step back from a later day never ends on an earlier one; where
the calendar ends first, the step is taken to end on the earliest date.
-/
namespace PriceHistory.Calendar.Date

theorem earliest_le (d : Date) : earliest ≤ d := by
  have := d.isDate.1
  have := d.month_mem
  have := d.day_mem
  intro before
  rw [lt_iff] at before
  simp only [earliest] at before
  omega

theorem lt_of_pred? {d p : Date} (before : d.pred? = some p) : p < d :=
  lt_iff_rank.mpr (rank_lt_of_pred? before)

/-! ### Days -/

theorem lt_of_minusDays? {n : Nat} {d p : Date} (back : d.minusDays? (n + 1) = some p) : p < d := by
  induction n generalizing d with
  | zero =>
    obtain ⟨q, before, here⟩ := Option.bind_eq_some_iff.mp back
    cases here
    exact lt_of_pred? before
  | succ n ih =>
    obtain ⟨q, before, further⟩ := Option.bind_eq_some_iff.mp back
    exact (ih further).trans (lt_of_pred? before)

theorem minusDays?_mono (n : Nat) {a b : Date} (order : a ≤ b) :
    (a.minusDays? n).getD earliest ≤ (b.minusDays? n).getD earliest := by
  induction n generalizing a b with
  | zero => exact order
  | succ n ih =>
    rw [minusDays?, minusDays?]
    cases beforeA : a.pred? with
    -- Where the calendar ends for the earlier day, its step ends on the earliest date.
    | none => exact earliest_le _
    | some p =>
      have earlier : p < b := (lt_of_pred? beforeA).trans_le order
      cases beforeB : b.pred? with
      | none => exact absurd earlier (not_lt_of_pred?_eq_none beforeB)
      | some q => exact ih ((lt_iff_le_of_pred? beforeB).mp earlier)

/-! ### Months -/

/-- Days are ordered by their months, and within a month by the day. -/
theorem lt_iff_month {a b : Date} : a < b ↔
    a.monthNumber < b.monthNumber ∨ a.monthNumber = b.monthNumber ∧ a.day < b.day := by
  have := a.month_mem
  have := b.month_mem
  rw [lt_iff]
  simp only [monthNumber]
  omega

/-- Dates of one month have one year and one month. -/
theorem monthNumber_inj {a b : Date} :
    a.monthNumber = b.monthNumber ↔ a.year = b.year ∧ a.month = b.month := by
  have := a.month_mem
  have := b.month_mem
  simp only [monthNumber]
  omega

/-- A step back by months ends on the same day of the month, or on its last day where it is shorter. -/
theorem minusMonths?_eq_some_iff {n : Nat} {d p : Date} : d.minusMonths? n = some p ↔
    p.monthNumber = d.monthNumber - n ∧ p.day = min d.day (daysIn p.year p.month) := by
  have := p.month_mem
  rw [minusMonths?, of?_eq_some_iff]
  -- The number of a month gives its year and its place in the year.
  have place : p.monthNumber = d.monthNumber - n ↔ p.year = (d.monthNumber - n) / 12 ∧
      p.month = ((d.monthNumber - n) % 12).toNat + 1 := by
    rw [monthNumber]
    omega
  rw [place, and_assoc]
  constructor <;> rintro ⟨year, month, day⟩ <;> exact ⟨year, month, by simpa only [year, month] using day⟩

theorem minusMonths?_eq_none_iff {n : Nat} {d : Date} :
    d.minusMonths? n = none ↔ d.monthNumber - n < 12 * firstYear := by
  have := d.isDate.1
  have := d.month_mem
  have := d.day_mem
  have within := daysIn_bounds ((d.monthNumber - n) / 12) (((d.monthNumber - n) % 12).toNat + 1)
  have number : d.monthNumber = 12 * d.year + (d.month - 1 : Nat) := rfl
  rw [minusMonths?, of?_eq_none_iff, IsDate]
  omega

theorem lt_of_minusMonths? {n : Nat} (positive : 0 < n) {d p : Date} (back : d.minusMonths? n = some p) :
    p < d := by
  obtain ⟨month, _⟩ := minusMonths?_eq_some_iff.mp back
  rw [lt_iff_month]
  omega

/-- More months back never end on a later day. -/
theorem minusMonths?_antitone {n k : Nat} (more : n ≤ k) (d : Date) :
    (d.minusMonths? k).getD earliest ≤ (d.minusMonths? n).getD earliest := by
  cases backK : d.minusMonths? k with
  | none => exact earliest_le _
  | some p =>
    obtain ⟨month, day⟩ := minusMonths?_eq_some_iff.mp backK
    cases backN : d.minusMonths? n with
    | none =>
      -- The months that are fewer lead less far, so they stay within the calendar too.
      have beyond := minusMonths?_eq_none_iff.mp backN
      have := p.month_mem
      have := p.isDate.1
      have : p.monthNumber = 12 * p.year + (p.month - 1 : Nat) := rfl
      omega
    | some q =>
      obtain ⟨month', day'⟩ := minusMonths?_eq_some_iff.mp backN
      change ¬q < p
      intro later
      rcases lt_iff_month.mp later with before | ⟨same, short⟩
      · omega
      · obtain ⟨year, place⟩ := monthNumber_inj.mp same
        rw [year, place] at day'
        omega

theorem minusMonths?_mono (n : Nat) {a b : Date} (order : a ≤ b) :
    (a.minusMonths? n).getD earliest ≤ (b.minusMonths? n).getD earliest := by
  have months : a.monthNumber < b.monthNumber ∨ a.monthNumber = b.monthNumber ∧ a.day ≤ b.day := by
    have := mt lt_iff_month.mpr (not_lt_of_ge order)
    omega
  cases backA : a.minusMonths? n with
  | none => exact earliest_le _
  | some p =>
    cases backB : b.minusMonths? n with
    | none =>
      have beyond := minusMonths?_eq_none_iff.mp backB
      have within : ¬a.monthNumber - n < 12 * firstYear :=
        fun first => nomatch backA.symm.trans (minusMonths?_eq_none_iff.mpr first)
      omega
    | some q =>
      obtain ⟨monthA, dayA⟩ := minusMonths?_eq_some_iff.mp backA
      obtain ⟨monthB, dayB⟩ := minusMonths?_eq_some_iff.mp backB
      change ¬q < p
      intro later
      rcases lt_iff_month.mp later with before | ⟨same, day⟩
      · omega
      · -- Within one month, both days are cut at the same length.
        obtain ⟨year, month⟩ := monthNumber_inj.mp same
        rw [year, month] at dayB
        omega

/-- A step back by months ends before the day before. -/
theorem lt_pred?_of_minusMonths? {n : Nat} (positive : 0 < n) {d p before : Date}
    (back : d.minusMonths? n = some p) (yesterday : d.pred? = some before) : p < before := by
  obtain ⟨month, day⟩ := minusMonths?_eq_some_iff.mp back
  have := before.month_mem
  have := d.month_mem
  have := daysIn_bounds d.year (d.month - 1)
  rw [lt_iff_month]
  unfold pred? at yesterday
  split at yesterday
  · obtain ⟨sameYear, sameMonth, _⟩ := of?_eq_some_iff.mp yesterday
    have same : before.monthNumber = d.monthNumber := monthNumber_inj.mpr ⟨sameYear, sameMonth⟩
    omega
  -- From the first of a month, the step ends on a first, and the day before is a last.
  · split at yesterday
    · obtain ⟨sameYear, lastMonth, lastDay⟩ := of?_eq_some_iff.mp yesterday
      have last : before.monthNumber = d.monthNumber - 1 := by
        simp only [monthNumber, sameYear, lastMonth]
        omega
      omega
    · obtain ⟨lastYear, december, lastDay⟩ := of?_eq_some_iff.mp yesterday
      have last : before.monthNumber = d.monthNumber - 1 := by
        simp only [monthNumber, lastYear, december]
        omega
      omega

/-! ### Days beside months -/

/-- The day before is at most four places away: the room that a month leaves unused is three days. -/
theorem rank_le_of_pred? {d p : Date} (before : d.pred? = some p) : d.rank ≤ p.rank + 4 := by
  obtain ⟨⟨firstOk, _⟩, _⟩ := d.isDate
  obtain ⟨⟨firstOk', _⟩, _⟩ := p.isDate
  have := d.month_mem
  have := d.day_mem
  have := daysIn_bounds d.year (d.month - 1)
  unfold pred? at before
  simp only [rank]
  split at before
  · obtain ⟨year, month, day⟩ := of?_eq_some_iff.mp before
    rw [year, month, day]
    omega
  · split at before <;> obtain ⟨year, month, day⟩ := of?_eq_some_iff.mp before <;>
      rw [year, month, day] <;> omega

theorem rank_le_minusDays? (n : Nat) (d : Date) :
    d.rank ≤ ((d.minusDays? n).getD earliest).rank + 4 * n := by
  induction n generalizing d with
  | zero => exact Nat.le_refl _
  | succ n ih =>
    rw [minusDays?]
    cases before : d.pred? with
    | none =>
      have first : d ≤ earliest := not_lt_of_pred?_eq_none before
      have := le_iff_rank.mp first
      simp only [Option.bind_none, Option.getD_none]
      omega
    | some p =>
      have := ih p
      have := rank_le_of_pred? before
      rw [Option.bind_some]
      omega

theorem rank_le_of_minusMonths? {n : Nat} {d p : Date} (back : d.minusMonths? n = some p) :
    p.rank + 31 * n ≤ d.rank := by
  obtain ⟨month, day⟩ := minusMonths?_eq_some_iff.mp back
  have := d.month_mem
  have := p.month_mem
  have := d.isDate.1
  have := p.isDate.1
  simp only [monthNumber] at month
  simp only [rank]
  omega

/-- A month back ends no later than five days back. -/
theorem minusMonths?_le_minusDays? {n : Nat} (positive : 0 < n) (d : Date) :
    (d.minusMonths? n).getD earliest ≤ (d.minusDays? 5).getD earliest := by
  cases back : d.minusMonths? n with
  | none => exact earliest_le _
  | some p =>
    have := rank_le_of_minusMonths? back
    have := rank_le_minusDays? 5 d
    rw [Option.getD_some, le_iff_rank]
    omega

end PriceHistory.Calendar.Date
