import PriceHistory.Proofs.Calendar.Numbering
import PriceHistory.Span

/-!
The windows of spans. The floor of a span never falls as the anchor rises, so the window of the next day
adds that day and no older one. A floor is as many months or days before its anchor as the span says, as far
as the calendar goes, and a window has a day for each number above that of its floor.
-/
namespace PriceHistory.Span

open PriceHistory.Calendar

theorem mem_window {span : Span} {anchor day : Date} :
    day ∈ span.window anchor ↔ span.floor anchor < day ∧ day ≤ anchor :=
  Date.mem_daysBack

theorem months_pos (span : Span) : 0 < span.months := by
  unfold months
  split <;> omega

theorem floor_of_ne_fiveDays {span : Span} (byMonths : span ≠ .fiveDays) (anchor : Date) :
    span.floor anchor = (anchor.minusMonths? span.months).getD .earliest := by
  cases span <;> first | rfl | exact absurd rfl byMonths

theorem floor_mono (span : Span) {a b : Date} (order : a ≤ b) : span.floor a ≤ span.floor b := by
  by_cases byDays : span = .fiveDays
  · rw [byDays]
    exact Date.minusDays?_mono 5 order
  · rw [floor_of_ne_fiveDays byDays, floor_of_ne_fiveDays byDays]
    exact Date.minusMonths?_mono _ order

/-- How wide a span is among the spans that are no single day. A date that is missing and a token that is
not known count as a month. -/
def width : Span → Nat
  | fiveYears => 6
  | twoYears => 5
  | oneYear => 4
  | sixMonths => 3
  | threeMonths => 2
  | oneMonth | byDate | other _ | oneDay => 1
  | fiveDays => 0

/-- A wider span reaches at least as far back. -/
theorem floor_le_of_width_le {narrow wide : Span} (order : narrow.width ≤ wide.width) (anchor : Date) :
    wide.floor anchor ≤ narrow.floor anchor := by
  by_cases byDays : wide = .fiveDays
  · have same : narrow = .fiveDays := by
      rw [byDays] at order
      cases narrow <;> first | rfl | simp [width] at order
    rw [byDays, same]
  · rw [floor_of_ne_fiveDays byDays]
    by_cases narrowByDays : narrow = .fiveDays
    · rw [narrowByDays]
      exact Date.minusMonths?_le_minusDays? wide.months_pos anchor
    · rw [floor_of_ne_fiveDays narrowByDays]
      refine Date.minusMonths?_antitone ?_ anchor
      -- Among spans of months, wider means more months.
      cases narrow <;> cases wide <;> simp_all [width, months]

/-- The window of a span within that of a wider one. -/
theorem window_eq_filter {narrow wide : Span} (order : narrow.width ≤ wide.width) (anchor : Date) :
    narrow.window anchor = (wide.window anchor).filter fun day => narrow.floor anchor < day := by
  have lower := floor_le_of_width_le order anchor
  -- Both lists fall strictly, and they have the same members.
  have falls : (narrow.window anchor).Pairwise fun newer older => older < newer :=
    Date.daysBack_pairwise _ _
  refine List.Perm.eq_of_pairwise ?_ falls ((Date.daysBack_pairwise _ _).filter _) ?_
  · intro a b _ _ below above
    exact absurd below above.not_gt
  · apply (List.perm_ext_iff_of_nodup (Date.nodup_daysBack _ _)
      ((Date.nodup_daysBack _ _).filter _)).mpr
    intro day
    rw [List.mem_filter, Date.mem_daysBack, Date.mem_daysBack, decide_eq_true_eq]
    constructor
    · rintro ⟨after, upTo⟩
      exact ⟨⟨lower.trans_lt after, upTo⟩, after⟩
    · rintro ⟨⟨_, upTo⟩, after⟩
      exact ⟨after, upTo⟩

/-- A floor lies before a day where the step back that it is ends before that day, or leads out of the
calendar. -/
private theorem floor_lt {span : Span} {anchor day : Date} (later : Date.earliest < day)
    (days : ∀ p, anchor.minusDays? 5 = some p → p < day)
    (months : ∀ p, anchor.minusMonths? span.months = some p → p < day) : span.floor anchor < day := by
  by_cases byDays : span = .fiveDays
  · rw [byDays]
    change (anchor.minusDays? 5).getD .earliest < day
    cases back : anchor.minusDays? 5 with
    | none => exact later
    | some p => exact days p back
  · rw [floor_of_ne_fiveDays byDays]
    cases back : anchor.minusMonths? span.months with
    | none => exact later
    | some p => exact months p back

/-- A span reaches back over the day before its anchor, save where the calendar begins there. -/
theorem floor_lt_of_pred? (span : Span) {day before : Date} (yesterday : day.pred? = some before)
    (later : Date.earliest < before) : span.floor day < before := by
  apply floor_lt later
  · intro p back
    rw [Date.minusDays?, yesterday] at back
    exact Date.lt_of_minusDays? back
  · intro p back
    exact Date.lt_pred?_of_minusMonths? span.months_pos back yesterday

/-- A window with days in it, a day later: the new anchor comes first, and the other days, of which
there are some, were in the window before. -/
theorem window_of_pred? (span : Span) {anchor next : Date} (yesterday : next.pred? = some anchor)
    (nonempty : span.window anchor ≠ []) : ∃ others, span.window next = next :: others ∧
      others ≠ [] ∧ ∀ day ∈ others, day ∈ span.window anchor := by
  obtain ⟨first, inside⟩ := List.exists_mem_of_ne_nil _ nonempty
  obtain ⟨after, upTo⟩ := mem_window.mp inside
  have below : span.floor next < anchor :=
    span.floor_lt_of_pred? yesterday (((Date.earliest_le _).trans_lt after).trans_le upTo)
  have advanced : anchor < next := Date.lt_of_pred? yesterday
  -- The floor may stay where it is, as at the end of a month, but it does not fall.
  have risen : span.floor anchor ≤ span.floor next := span.floor_mono advanced.le
  refine ⟨Date.daysBack anchor (span.floor next), ?_, ?_, ?_⟩
  · rw [window, Date.daysBack, if_pos (below.trans advanced)]
    split
    next before found => rw [Option.some.inj (found.symm.trans yesterday)]
    next none => cases none.symm.trans yesterday
  · exact List.ne_nil_of_mem (Date.mem_daysBack.mpr ⟨below, le_rfl⟩)
  · intro day member
    obtain ⟨later, earlier⟩ := Date.mem_daysBack.mp member
    exact mem_window.mpr ⟨risen.trans_lt later, earlier⟩

/-! ### Floors on the calendar -/

/-- Every floor lies before its anchor, save that nothing lies before the earliest date. -/
theorem floor_lt_iff {span : Span} {anchor : Date} : span.floor anchor < anchor ↔ anchor ≠ .earliest := by
  constructor
  · rintro below rfl
    exact absurd below (not_lt_of_ge (Date.earliest_le _))
  · intro later
    apply floor_lt (lt_of_le_of_ne (Date.earliest_le anchor) later.symm)
    · exact fun _ => Date.lt_of_minusDays?
    · exact fun _ => Date.lt_of_minusMonths? span.months_pos

/-- The floors of spans and the days of windows. A floor is as many months before its anchor as the span says,
or five days. It lies before the anchor save on the earliest date, never falls as the anchor rises, and is lower
for a wider span. The days back from an anchor are those after the bound, each once, and each is the day before
the one in front of it; there are as many as the numbers of anchor and bound differ, and none where the bound is not
before the anchor. -/
theorem windows_on_calendar (token : String) (anchor : Date) :
    (∀ span n, (span, n) ∈ [(fiveYears, 60), (twoYears, 24), (oneYear, 12), (sixMonths, 6), (threeMonths, 3),
        (oneMonth, 1), (oneDay, 1), (byDate, 1), (other token, 1)] →
      ∀ p, span.floor anchor = p ↔ Date.IsMonthsBefore n p anchor) ∧
    (∀ p, fiveDays.floor anchor = p ↔ Date.IsDaysBefore 5 p anchor) ∧
    (∀ span : Span, (span.floor anchor < anchor ↔ anchor ≠ .earliest) ∧
      ∀ later, anchor ≤ later → span.floor anchor ≤ span.floor later) ∧
    ([fiveYears, twoYears, oneYear, sixMonths, threeMonths, oneMonth, fiveDays].map
      fun span => span.floor anchor).Pairwise (· ≤ ·) ∧
    ∀ bound, let days := Date.daysBack anchor bound
      (∀ day, day ∈ days ↔ bound < day ∧ day ≤ anchor) ∧ days.Nodup ∧
      (days.IsChain fun newer older => newer.pred? = some older ∧ older.dayNumber + 1 = newer.dayNumber) ∧
      (days.length : Int) = if bound < anchor then anchor.dayNumber - bound.dayNumber else 0 := by
  refine ⟨?_, ?_, fun span => ⟨floor_lt_iff, fun later => span.floor_mono⟩, ?_, ?_⟩
  · intro span n listed p
    -- All spans but the one of five days are listed, each with its months.
    have reach : span ≠ .fiveDays ∧ span.months = n := by
      simp only [List.mem_cons, Prod.mk.injEq, List.not_mem_nil, or_false] at listed
      grind [months]
    rw [floor_of_ne_fiveDays reach.1, reach.2]
    exact Date.minusMonths?_getD_eq_iff
  · exact fun p => Date.minusDays?_getD_eq_iff
  · have wider : [fiveYears, twoYears, oneYear, sixMonths, threeMonths, oneMonth, fiveDays].Pairwise
        fun wide narrow => narrow.width ≤ wide.width := by decide
    rw [List.pairwise_map]
    exact wider.imp fun order => floor_le_of_width_le order anchor
  · intro bound days
    refine ⟨fun day => Date.mem_daysBack, Date.nodup_daysBack _ _, ?_, ?_⟩
    · exact (Date.isChain_daysBack anchor bound).imp fun _ _ before => ⟨before, Date.dayNumber_of_pred? before⟩
    · rw [show days.length = _ from Date.length_daysBack anchor bound]
      split
      next before =>
        have := Date.lt_iff_dayNumber.mp before
        omega
      next notBefore =>
        have := mt Date.lt_iff_dayNumber.mpr notBefore
        omega

/-- The last of March 2020 and the leap day before it, and a third of January at the start of the calendar. -/
theorem windows_on_calendar_leap_day :
    let march : Date := (Date.of? 2020 3 31).getD .earliest
    let leap : Date := (Date.of? 2020 2 29).getD .earliest
    let first : Date := (Date.of? firstYear 1 3).getD .earliest
    (other "ytd").floor march = leap ∧ oneYear.floor leap = (Date.of? 2019 2 28).getD .earliest ∧
      (Date.daysBack march leap).length = 31 ∧ fiveDays.floor first = .earliest ∧
      (Date.daysBack first .earliest).length = 2 := by
  intro march leap first
  obtain ⟨months, _, _, _, days⟩ := windows_on_calendar "ytd" march
  obtain ⟨monthsOfLeap, _⟩ := windows_on_calendar "ytd" leap
  obtain ⟨_, fiveDaysOfFirst, _, _, daysOfFirst⟩ := windows_on_calendar "ytd" first
  refine ⟨(months _ 1 (by simp) leap).mpr (by decide), (monthsOfLeap _ 12 (by simp) _).mpr (by decide), ?_,
    (fiveDaysOfFirst _).mpr (by decide), ?_⟩
  · have count := (days leap).2.2.2
    rw [if_pos (by decide)] at count
    exact Int.ofNat.inj (count.trans (by decide))
  · have count := (daysOfFirst .earliest).2.2.2
    rw [if_pos (by decide)] at count
    exact Int.ofNat.inj (count.trans (by decide))

end PriceHistory.Span
