import Mathlib.Order.Basic
import PriceHistory.Calendar.Date

/-!
The order of days and the days of a window. No day lies between a day and the one before it, so the
days back from an anchor are all those after the bound, each once.
-/
namespace PriceHistory.Calendar.Date

theorem month_mem (d : Date) : 1 ≤ d.month ∧ d.month ≤ 12 := d.isDate.2.1

theorem day_mem (d : Date) : 1 ≤ d.day ∧ d.day ≤ daysIn d.year d.month := d.isDate.2.2

/-- Days are ordered as their ranks are. -/
theorem lt_iff_rank {a b : Date} : a < b ↔ a.rank < b.rank := by
  obtain ⟨⟨firstA, _⟩, ⟨_, _⟩, _, dayA⟩ := a.isDate
  obtain ⟨⟨firstB, _⟩, ⟨_, _⟩, _, dayB⟩ := b.isDate
  have shortA := (daysIn_bounds a.year a.month).2
  have shortB := (daysIn_bounds b.year b.month).2
  rw [lt_iff]
  simp only [rank]
  -- Years from the first one on, months and days are the digits of a rank.
  have years : a.year < b.year ↔ (a.year - firstYear).toNat < (b.year - firstYear).toNat := by omega
  have same : a.year = b.year ↔ (a.year - firstYear).toNat = (b.year - firstYear).toNat := by omega
  rw [years, same]
  omega

theorem le_iff_rank {a b : Date} : a ≤ b ↔ a.rank ≤ b.rank := by
  change ¬b < a ↔ _
  rw [lt_iff_rank]
  exact Nat.not_lt

theorem rank_inj {a b : Date} : a.rank = b.rank ↔ a = b := by
  constructor
  · intro same
    have notBefore : ¬a < b := by rw [lt_iff_rank]; omega
    have notAfter : ¬b < a := by rw [lt_iff_rank]; omega
    rw [lt_iff] at notBefore notAfter
    obtain ⟨year, month, day, _⟩ := a
    obtain ⟨year', month', day', _⟩ := b
    simp only [mk.injEq]
    simp only at notBefore notAfter
    omega
  · rintro rfl
    rfl

instance : LinearOrder Date where
  le_refl a := le_iff_rank.mpr (Nat.le_refl _)
  le_trans a b c := by
    rw [le_iff_rank, le_iff_rank, le_iff_rank]
    exact Nat.le_trans
  lt_iff_le_not_ge a b := by
    rw [lt_iff_rank, le_iff_rank, le_iff_rank]
    omega
  le_antisymm a b := by
    rw [le_iff_rank, le_iff_rank, ← rank_inj]
    exact Nat.le_antisymm
  le_total a b := by
    rw [le_iff_rank, le_iff_rank]
    exact Nat.le_total _ _
  toDecidableLE := inferInstance
  toDecidableEq := inferInstance
  toDecidableLT := inferInstance

/-- The day before a day is an earlier one, and no day lies between the two. -/
theorem lt_iff_le_of_pred? {d a p : Date} (before : a.pred? = some p) : d < a ↔ d ≤ p := by
  constructor
  · intro earlier later
    have := a.month_mem
    have := d.month_mem
    have dayA := a.day_mem
    have dayD := d.day_mem
    rw [lt_iff] at earlier later
    unfold pred? at before
    split at before
    · obtain ⟨year, month, day⟩ := of?_eq_some_iff.mp before
      omega
    · split at before
      -- The day before is the last one of its month, so a later day of that month has no place.
      · obtain ⟨year, month, day⟩ := of?_eq_some_iff.mp before
        by_cases within : d.year = a.year ∧ d.month = a.month - 1
        · rw [within.1, within.2] at dayD
          omega
        · omega
      · obtain ⟨year, month, day⟩ := of?_eq_some_iff.mp before
        have := (daysIn_bounds d.year d.month).2
        omega
  · intro earlier
    have := rank_lt_of_pred? before
    rw [le_iff_rank] at earlier
    rw [lt_iff_rank]
    omega

theorem of?_eq_none_iff {year : Int} {month day : Nat} :
    of? year month day = none ↔ ¬IsDate year month day := by
  unfold of?
  split <;> simp_all

/-- Nothing comes before a day that has no day before it. -/
theorem not_lt_of_pred?_eq_none {d a : Date} (first : a.pred? = none) : ¬d < a := by
  intro earlier
  have months := a.month_mem
  have days := a.day_mem
  have years := a.isDate.1
  unfold pred? at first
  split at first
  · exact of?_eq_none_iff.mp first ⟨years, months, by omega, by omega⟩
  · split at first
    · have bounds := daysIn_bounds a.year (a.month - 1)
      exact of?_eq_none_iff.mp first ⟨years, by omega, by omega, Nat.le_refl _⟩
    · have impossible := of?_eq_none_iff.mp first
      -- Only the first day of the first year has no day before it.
      have december : daysIn (a.year - 1) 12 = 31 := rfl
      have := d.isDate.1
      have := d.month_mem
      have := d.day_mem
      rw [IsDate, december] at impossible
      rw [lt_iff] at earlier
      omega

/-- A day with an earlier one has a day before it, which is no earlier than that one. -/
theorem exists_pred?_of_lt {d a : Date} (earlier : d < a) : ∃ p, a.pred? = some p ∧ d ≤ p := by
  cases found : a.pred? with
  | none => exact absurd earlier (not_lt_of_pred?_eq_none found)
  | some p => exact ⟨p, rfl, (lt_iff_le_of_pred? found).mp earlier⟩

/-! ### The days of a window -/

/-- The days back from an anchor are those after the bound, up to the anchor. -/
theorem mem_daysBack {d anchor bound : Date} :
    d ∈ daysBack anchor bound ↔ bound < d ∧ d ≤ anchor := by
  induction anchor using daysBack.induct bound with
  | case1 anchor inside ih =>
    -- The anchor comes first, and the rest is the walk from the day before it.
    rw [daysBack, if_pos inside, List.mem_cons]
    have last : d = anchor ∨ d < anchor ↔ d ≤ anchor := by
      rw [← rank_inj, lt_iff_rank, le_iff_rank]
      omega
    split
    next before found =>
      rw [ih before found, ← lt_iff_le_of_pred? found, ← last]
      constructor
      · rintro (rfl | ⟨after, earlier⟩)
        · exact ⟨inside, .inl rfl⟩
        · exact ⟨after, .inr earlier⟩
      · rintro ⟨after, here | earlier⟩
        · exact .inl here
        · exact .inr ⟨after, earlier⟩
    next first =>
      have none := not_lt_of_pred?_eq_none first (d := d)
      rw [← last]
      constructor
      · rintro (rfl | nothing)
        · exact ⟨inside, .inl rfl⟩
        · cases nothing
      · rintro ⟨_, here | earlier⟩
        · exact .inl here
        · exact absurd earlier none
  | case2 anchor outside =>
    rw [daysBack, if_neg outside]
    constructor
    · intro nothing
      cases nothing
    · rintro ⟨after, upTo⟩
      rw [lt_iff_rank] at after outside
      rw [le_iff_rank] at upTo
      omega

/-- The days back from an anchor come newest first, each once. -/
theorem daysBack_pairwise (anchor bound : Date) :
    (daysBack anchor bound).Pairwise fun newer older => older < newer := by
  induction anchor using daysBack.induct bound with
  | case1 anchor inside ih =>
    rw [daysBack, if_pos inside]
    apply List.Pairwise.cons
    · split
      next before found =>
        intro older member
        exact (lt_iff_le_of_pred? found).mpr (mem_daysBack.mp member).2
      · intro older nothing
        cases nothing
    · split
      next before found => exact ih before found
      · exact List.Pairwise.nil
  | case2 anchor outside =>
    rw [daysBack, if_neg outside]
    exact List.Pairwise.nil

theorem nodup_daysBack (anchor bound : Date) : (daysBack anchor bound).Nodup :=
  (daysBack_pairwise anchor bound).imp fun older => older.ne'

/-- A day of June 2021, of which the 26th is a Saturday. Examples are dated to it. -/
def ofJune (day : Nat) : Date :=
  (Date.of? 2021 6 day).getD .earliest

end PriceHistory.Calendar.Date
