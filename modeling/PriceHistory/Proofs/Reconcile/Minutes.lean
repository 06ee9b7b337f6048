import PriceHistory.Proofs.Calendar.Order
import PriceHistory.Proofs.Database.Collation
import PriceHistory.Proofs.Reconcile.Filled

/-!
A query for the minutes of a day, made again. What the provider answered to the first decides whether
the second asks it again, and a day that is served has in each minute the last point answered for it,
else the one that was stored before.
-/
namespace PriceHistory

open PriceHistory.Calendar PriceHistory.Database

/-- After some points are filed under a symbol, a minute of a day holds the last of them for it, else
what it held before. -/
theorem Database.Table.held_filed {t : Table} (filled : t.Filled) {symbol : String} {day : Date}
    {points : List Record} {time : TimeOfDay} :
    (t.putEach (points.map (·.filedUnder symbol))).held (.of symbol day (.minute time)) =
      ((points.findRev? fun p => p.key.date = day ∧ p.key.slot.text = time.text).map fun p =>
        (p.rekeyed symbol (.minute time)).readBack).or (t.held (.of symbol day (.minute time))) := by
  have cells (p : Record) : RowKey.of (p.filedUnder symbol).key = .of (.of symbol day (.minute time)) ↔
      p.key.date = day ∧ p.key.slot.text = time.text := by
    rw [RowKey.of_eq_iff]
    exact and_iff_right rfl
  rw [filled.held_putEach]
  simp only [List.findRev?_eq_find?_reverse, ← List.map_reverse, List.find?_map, Function.comp_def,
    cells]
  cases found : points.reverse.find? fun p => p.key.date = day ∧ p.key.slot.text = time.text with
  | none => rfl
  | some p =>
    have here : p.key.date = day ∧ p.key.slot.text = time.text := by
      simpa using List.find?_some found
    -- The point may be filed as the marker, whose text is read as the minute.
    have slot : p.key.slot.readBack = (Slot.minute time).readBack := Slot.readBack_inj.mpr here.2
    simp [Record.filedUnder, Record.rekeyed, Record.readBack, Key.readBack, Key.of, slot]

namespace Exchange

variable {τ : Type} {exchange : Exchange Database (StateM τ)} {t : Table} {symbol : String}
  {day : Date}

theorem onDate_compact (s : Database) (symbol : String) (span : Span)
    (plain : 0 ≤ day.year ∧ day.year ≤ 9999) :
    exchange.onDate s symbol span day.compact = exchange.onDay s symbol span day := by
  rw [onDate, Date.ofCompact?_compact plain]

/-- A query for an unmarked day of a year from 0 to 9999, made once and again over a table that nothing
but writes has filled. The second asks the provider exactly if the answer to the first has no point of
that day at 10:50, and then it makes one request. Else it leaves the table as it is, and gives for each
minute of the session, in ascending order, the last point of the answer for that day and minute, else
what the table held before the first, else nothing. -/
theorem onDate_again (plain : exchange.store = Database.store) (filled : t.Filled)
    (written : 0 ≤ day.year ∧ day.year ≤ 9999)
    (unmarked : t.has (.of symbol day .marker) = false) (first second : Span) {source later : τ}
    {points : List Record}
    (answer : exchange.provider.chart (.onDay symbol first day) source = (.ok points, later)) :
    let one := exchange.onDate ⟨some t⟩ symbol first day.compact source
    let two := exchange.onDate one.1.store symbol second day.compact one.2
    let marked := ∃ p ∈ points, p.key.date = day ∧ p.key.slot.text = Slot.markerText
    (two.1.requests = [] ↔ marked) ∧
    (¬marked → two.1.requests = [.chart (.onDay symbol second day)] ∧
      two.2 = (exchange.provider.chart (.onDay symbol second day) later).2) ∧
    (marked → two.2 = later ∧ two.1.store = one.1.store ∧
      two.1.result = .ok (TimeOfDay.sessionMinutes.filterMap fun time =>
        ((points.findRev? fun p => p.key.date = day ∧ p.key.slot.text = time.text).map fun p =>
          (p.rekeyed symbol (.minute time)).readBack).or
            (t.held (.of symbol day (.minute time))))) := by
  intro one two marked
  let after := t.putEach (points.map (·.filedUnder symbol))
  have refilled : after.Filled := filled.putEach _
  have ran : one = (⟨.ok (points.map (·.filedUnder symbol)), ⟨some after⟩,
      [.chart (.onDay symbol first day)]⟩, later) := by
    change exchange.onDate _ symbol first day.compact source = _
    rw [onDate_compact _ _ _ written, run_onDay_unmarked plain filled (by simp [unmarked]) first answer,
      received_ok plain]
  have again : two = exchange.onDay ⟨some after⟩ symbol second day later := by
    change exchange.onDate one.1.store symbol second day.compact one.2 = _
    rw [onDate_compact _ _ _ written, ran]
  have known : after.has (.of symbol day .marker) = true ↔ marked := Table.marked_filed unmarked
  have asked (fresh : ¬marked) : two.1.requests = [.chart (.onDay symbol second day)] ∧
      two.2 = (exchange.provider.chart (.onDay symbol second day) later).2 := by
    rw [again, run_onDay_unmarked plain refilled (fresh ∘ known.mp) second rfl]
    exact ⟨requests_received _ _ _ _, rfl⟩
  have served (marked : marked) : two = (.quiet (.ok (TimeOfDay.sessionMinutes.filterMap fun time =>
      after.held (.of symbol day (.minute time)))) ⟨some after⟩, later) := by
    rw [again, onDay_marked plain refilled (known.mpr marked)]
    rfl
  refine ⟨⟨?_, ?_⟩, asked, ?_⟩
  · intro quiet
    by_contra fresh
    rw [(asked fresh).1] at quiet
    cases quiet
  · intro marked
    rw [served marked]
    rfl
  · intro marked
    rw [served marked, ran]
    refine ⟨rfl, rfl, ?_⟩
    -- Each minute holds the last point filed for it.
    simp only [Outcome.quiet, after, Table.held_filed filled]

/-- A minute of a day of June 2021, without prices. -/
private def bar (day hour minute volume : Nat) : Record :=
  ⟨.of "aapl" (.ofJune day)
      ((TimeOfDay.of? hour minute).elim .wholeDay .minute),
    none, none, none, none, (Decimal.of? volume 0).getD .zero⟩

/-- An exchange whose provider gives some points whatever it is asked for. -/
private def exchangeGiving (points : List Record) : Exchange Database (StateM Unit) :=
  ⟨Database.store, ⟨fun _ => pure (.ok points), pure (.ok []), fun _ => pure (.ok [])⟩⟩

/-- A minute is answered twice, one point is of another day and one comes after the session, and two
minutes were stored before. -/
theorem onDate_again_stale :
    let day : Date := .ofJune 25
    let points := [bar 25 10 50 1, bar 25 17 0 2, bar 24 9 32 3, bar 25 9 30 4, bar 25 10 50 5]
    let t := Table.empty.putEach [bar 25 9 30 6, bar 25 9 31 7]
    let one := (exchangeGiving points).onDate ⟨some t⟩ "aapl" .byDate day.compact ()
    let two := (exchangeGiving points).onDate one.1.store "aapl" .oneYear day.compact one.2
    two.1.requests = [] ∧ two.1.result = .ok [bar 25 9 30 4, bar 25 9 31 7, bar 25 10 50 5] := by
  intro day points t
  dsimp only
  have plain : (exchangeGiving points).store = Database.store := rfl
  have filled : t.Filled := Table.Filled.putEach .empty _
  have written : 0 ≤ day.year ∧ day.year ≤ 9999 := by decide
  have unmarked : t.has (.of "aapl" day .marker) = false := by decide +kernel
  have answer : (exchangeGiving points).provider.chart (.onDay "aapl" .byDate day) () =
      (.ok points, ()) := rfl
  have marked : ∃ p ∈ points, p.key.date = day ∧ p.key.slot.text = Slot.markerText := by
    decide +kernel
  obtain ⟨served, _, answered⟩ := onDate_again plain filled written unmarked .byDate .oneYear answer
  obtain ⟨_, _, result⟩ := answered marked
  refine ⟨served.mpr marked, result.trans ?_⟩
  decide +kernel

/-- A bar at 10:50 whose close is a zero with a minus sign, as rounding to 28 places may leave it. -/
private def signedBar : Record :=
  { bar 25 10 50 1 with close := some { (Decimal.of? 0 28).getD .zero with negative := true } }

/-- Such a bar is filed and returned with the sign, and served without it. -/
theorem onDate_again_loses_sign :
    let day : Date := .ofJune 25
    let one := (exchangeGiving [signedBar]).onDate Database.empty "aapl" .byDate day.compact ()
    let two := (exchangeGiving [signedBar]).onDate one.1.store "aapl" .byDate day.compact one.2
    one.1.result = .ok [signedBar] ∧ two.1.requests = [] ∧ ∃ served, two.1.result = .ok [served] ∧
      served.close.map Decimal.text ≠ signedBar.close.map Decimal.text := by
  refine ⟨?_, ?_, signedBar.readBack, ?_⟩ <;> decide +kernel

end Exchange

end PriceHistory
