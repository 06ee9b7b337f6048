/-!
Calendar days of the proleptic Gregorian calendar, with a year zero, in a bounded span of years:
their order, their numbering, and stepping back by days and by months.
-/
namespace PriceHistory.Calendar

/-- The first year that has dates. -/
def firstYear : Int := -262143

/-- The last year that has dates. -/
def lastYear : Int := 262142

/-- Every fourth year is a leap year, save the centuries that four hundred does not divide. -/
def isLeap (year : Int) : Bool :=
  year % 4 == 0 && (year % 100 != 0 || year % 400 == 0)

/-- The number of days in a month. -/
def daysIn (year : Int) (month : Nat) : Nat :=
  match month with
  | 2 => if isLeap year then 29 else 28
  | 4 | 6 | 9 | 11 => 30
  | _ => 31

theorem daysIn_bounds (year : Int) (month : Nat) : 28 ≤ daysIn year month ∧ daysIn year month ≤ 31 := by
  unfold daysIn
  split <;> (try split) <;> omega

/-- A year, month and day that the calendar has. -/
def IsDate (year : Int) (month day : Nat) : Prop :=
  (firstYear ≤ year ∧ year ≤ lastYear) ∧ (1 ≤ month ∧ month ≤ 12) ∧ 1 ≤ day ∧ day ≤ daysIn year month

instance (year : Int) (month day : Nat) : Decidable (IsDate year month day) :=
  inferInstanceAs (Decidable (_ ∧ _))

/-- A calendar day. -/
structure Date where
  year : Int
  month : Nat
  day : Nat
  isDate : IsDate year month day
  deriving DecidableEq

namespace Date

/-- The date of a year, month and day, where there is one. -/
def of? (year : Int) (month day : Nat) : Option Date :=
  if h : IsDate year month day then some ⟨year, month, day, h⟩ else none

theorem of?_eq_some_iff {year : Int} {month day : Nat} {d : Date} :
    of? year month day = some d ↔ d.year = year ∧ d.month = month ∧ d.day = day := by
  unfold of?
  constructor
  · intro h
    split at h
    · cases h; exact ⟨rfl, rfl, rfl⟩
    · cases h
  · rintro ⟨rfl, rfl, rfl⟩
    rw [dif_pos d.isDate]

/-- The earliest date. -/
def earliest : Date := ⟨firstYear, 1, 1, by decide⟩

/-- Chronological order: by year, then by month, then by day. -/
def Before (a b : Date) : Prop :=
  a.year < b.year ∨ a.year = b.year ∧ (a.month < b.month ∨ a.month = b.month ∧ a.day < b.day)

instance : LT Date := ⟨Before⟩

instance : LE Date := ⟨fun a b => ¬b < a⟩

instance (a b : Date) : Decidable (a < b) :=
  inferInstanceAs (Decidable (_ ∨ _))

instance (a b : Date) : Decidable (a ≤ b) :=
  inferInstanceAs (Decidable (¬_))

theorem lt_iff {a b : Date} : a < b ↔
    a.year < b.year ∨ a.year = b.year ∧ (a.month < b.month ∨ a.month = b.month ∧ a.day < b.day) :=
  Iff.rfl

/-- The number of days from the first of January of year 1 to the one of `year`. -/
def daysBeforeYear (year : Int) : Int :=
  365 * (year - 1) + (year - 1) / 4 - (year - 1) / 100 + (year - 1) / 400

/-- The number of days of a year before the first of a month. -/
def daysBeforeMonth (year : Int) (month : Nat) : Nat :=
  (List.range' 1 (month - 1)).foldl (fun days earlier => days + daysIn year earlier) 0

/-- The number of a day, counted through the whole calendar; the first of January of year 1 is
number 1. -/
def dayNumber (d : Date) : Int :=
  daysBeforeYear d.year + daysBeforeMonth d.year d.month + d.day

/-- The day before, where there is one. -/
def pred? (d : Date) : Option Date :=
  if 1 < d.day then of? d.year d.month (d.day - 1)
  else if 1 < d.month then of? d.year (d.month - 1) (daysIn d.year (d.month - 1))
  else of? (d.year - 1) 12 31

/-- The day `n` days before, where there is one. -/
def minusDays? : Nat → Date → Option Date
  | 0, d => some d
  | n + 1, d => d.pred?.bind (minusDays? n)

/-- The number of a month, counted through all years. -/
def monthNumber (d : Date) : Int :=
  12 * d.year + (d.month - 1 : Nat)

/-- The same day `n` months before, or the last day of that month when it is shorter. -/
def minusMonths? (n : Nat) (d : Date) : Option Date :=
  let months := d.monthNumber - n
  let year := months / 12
  let month := (months % 12).toNat + 1
  of? year month (min d.day (daysIn year month))

/-- A day's place among the days of all years when each month is given room for 31 of them. -/
def rank (d : Date) : Nat :=
  ((d.year - firstYear).toNat * 12 + d.month) * 31 + d.day

theorem rank_lt_of_pred? {d p : Date} (h : d.pred? = some p) : p.rank < d.rank := by
  obtain ⟨⟨firstOk, _⟩, ⟨monthPos, _⟩, dayPos, _⟩ := d.isDate
  obtain ⟨⟨firstOk', _⟩, _⟩ := p.isDate
  unfold pred? at h
  split at h
  · obtain ⟨year, month, day⟩ := of?_eq_some_iff.mp h
    simp only [rank, year, month, day]
    omega
  · split at h
    · obtain ⟨year, month, day⟩ := of?_eq_some_iff.mp h
      have := (daysIn_bounds d.year (d.month - 1)).2
      simp only [rank, year, month, day]
      omega
    · obtain ⟨year, month, day⟩ := of?_eq_some_iff.mp h
      simp only [rank, year, month, day]
      have : (d.year - firstYear).toNat = (d.year - 1 - firstYear).toNat + 1 := by omega
      omega

/-- The days from `anchor` back to `bound`, newest first, without `bound` itself. -/
def daysBack (anchor bound : Date) : List Date :=
  if bound < anchor then
    anchor ::
      match _h : anchor.pred? with
      | some before => daysBack before bound
      | none => []
  else []
termination_by anchor.rank
decreasing_by exact rank_lt_of_pred? _h

end Date

end PriceHistory.Calendar
