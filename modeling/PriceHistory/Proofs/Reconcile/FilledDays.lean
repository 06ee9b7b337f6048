import PriceHistory.Proofs.Database.FiniteMap
import PriceHistory.Proofs.Reconcile.Days
import PriceHistory.Proofs.Reconcile.Overlap

/-!
Queries for the days of a span over a table that nothing but writes has filled: what is served, what is
left to fetch, and what is held for a day once the answers are filed.
-/
namespace PriceHistory

open PriceHistory.Calendar PriceHistory.Database

variable {τ : Type} {t : Table} {symbol : String}

/-- The points of an answer, as the provider gives them. -/
def Heard.points : Heard → List Record
  | ⟨_, .ok points⟩ => points
  | ⟨_, .error _⟩ => []

theorem filed_eq_points {heard : List Heard}
    (byDay : ∀ h ∈ heard, h.request.form = Record.filedByDay symbol) :
    heard.flatMap Heard.filed = (heard.flatMap Heard.points).map (·.filedByDay symbol) := by
  rw [List.map_flatMap]
  apply List.flatMap_congr
  rintro ⟨request, answer⟩ member
  cases answer with
  | error e => rfl
  | ok points => exact congrArg points.map (byDay _ member)

/-- After some points are filed by their days, each day holds the last of them that is dated to it, else
what it held before. -/
theorem Database.Table.held_filedByDay (filled : t.Filled) (points : List Record) (day : Date) :
    (t.putEach (points.map (·.filedByDay symbol))).held (.of symbol day .wholeDay) =
      ((points.findRev? fun p => p.key.date = day).map fun p => (p.filedByDay symbol).readBack).or
        (t.held (.of symbol day .wholeDay)) := by
  have cells (p : Record) :
      RowKey.of (p.filedByDay symbol).key = .of (.of symbol day .wholeDay) ↔ p.key.date = day := by
    rw [RowKey.of_eq_iff]
    exact ⟨fun same => same.2.1, fun same => ⟨rfl, same, rfl⟩⟩
  rw [filled.held_putEach]
  simp only [List.findRev?_eq_find?_reverse, ← List.map_reverse, List.find?_map, Function.comp_def,
    cells]
  cases points.reverse.find? fun p => decide (p.key.date = day) <;> rfl

/-- What a day holds is a record of this day as a whole, in the form that reading gives. -/
theorem Database.Table.Filled.of_held_wholeDay (filled : t.Filled) {day : Date} {r : Record}
    (found : t.held (.of symbol day .wholeDay) = some r) :
    r.key = .of symbol day .wholeDay ∧ r.readBack = r := by
  obtain ⟨written, _, cells, rfl⟩ := filled.held_eq_some_iff.mp found
  exact ⟨RowKey.of_inj.mp cells, written.readBack_readBack⟩

namespace Exchange

variable {exchange : Exchange Database (StateM τ)}

theorem storedWhole?_filled (plain : exchange.store = Database.store) (filled : t.Filled)
    (symbol : String) (day : Date) :
    exchange.storedWhole? ⟨some t⟩ symbol day = t.held (.of symbol day .wholeDay) := by
  rw [storedWhole?, plain, store_hit? filled]

/-- After some points are filed by their days, the last of them that is dated to a day is stored for it,
else what was stored before. -/
theorem storedWhole?_filedByDay (plain : exchange.store = Database.store) (filled : t.Filled)
    (symbol : String) (points : List Record) (day : Date) :
    exchange.storedWhole? ⟨some (t.putEach (points.map (·.filedByDay symbol)))⟩ symbol day =
      ((points.findRev? fun p => p.key.date = day).map fun p => (p.filedByDay symbol).readBack).or
        (exchange.storedWhole? ⟨some t⟩ symbol day) := by
  rw [storedWhole?_filled plain (filled.putEach _), storedWhole?_filled plain filled,
    Table.held_filedByDay filled]

theorem storedWhole?_filedByDay_isSome_iff (plain : exchange.store = Database.store) (filled : t.Filled)
    (symbol : String) (points : List Record) (day : Date) :
    (exchange.storedWhole? ⟨some (t.putEach (points.map (·.filedByDay symbol)))⟩ symbol day).isSome ↔
      (exchange.storedWhole? ⟨some t⟩ symbol day).isSome ∨ ∃ p ∈ points, p.key.date = day := by
  rw [storedWhole?_filedByDay plain filled, Option.isSome_or, Option.isSome_map,
    List.findRev?_eq_find?_reverse, Bool.or_eq_true, List.find?_isSome]
  simp only [List.mem_reverse, decide_eq_true_eq]
  exact or_comm

/-- How a query for a span of more than one day goes at some pace, with its answers written down and
without. Where a day fails, those that have been asked for behind it are dropped. -/
theorem overSpanAt_serves (plain : exchange.store = Database.store) (filled : t.Filled) (pace : Pace)
    (today : Date) (symbol : String) {span : Span} (several : span ≠ .oneDay) (source : τ) :
    let range := if span = .byDate then .oneMonth else span
    let window := range.window (anchor today)
    let hits := window.filterMap (exchange.storedWhole? ⟨some t⟩ symbol)
    let missing := window.filter fun day => (exchange.storedWhole? ⟨some t⟩ symbol day).isNone
    let requests := if hits = [] then [.days symbol range] else missing.map (.wholeDay symbol .oneMonth)
    ∃ heard result between late dropped,
      exchange.provider.Serves requests source heard result between ∧
      late <+: missing.drop heard.length ∧ late.length < pace.width ∧
      (hits = [] ∨ (∃ records, result = .ok records) → late = []) ∧
      dropped.map Heard.request = late.map (.wholeDay symbol .oneMonth) ∧
      let outcome : Outcome Database (List Record) := ⟨result.map (hits ++ ·),
        ⟨some (t.putEach ((heard.flatMap Heard.points).map (·.filedByDay symbol)))⟩,
        ((heard ++ dropped).map Heard.request).map .chart⟩
      let later := (exchange.askDays symbol late between).2
      exchange.overSpanAt pace ⟨some t⟩ today symbol span source = (outcome, later) ∧
      ∀ earlier, exchange.recorded.overSpanAt pace ⟨some t⟩ today symbol span (source, earlier) =
        (outcome, later, earlier ++ heard ++ dropped) := by
  intro range window hits missing requests
  have answered : ∀ day ∈ window,
      ∃ answer, exchange.store.lookup ⟨some t⟩ (.of symbol day .wholeDay) = .ok answer := by
    intro day _
    rw [plain]
    exact store_reliable.lookup_ok ⟨t, rfl, filled⟩ _
  have scanned : exchange.scanDays ⟨some t⟩ symbol window = .ok (hits, missing) := scanDays_eq answered
  have scannedNoted : exchange.recorded.scanDays ⟨some t⟩ symbol window = .ok (hits, missing) :=
    scanDays_eq answered
  simp only [overSpanAt_of_ne_oneDay _ _ _ _ _ several]
  by_cases none : hits = []
  · -- The one request of a span has none behind it.
    obtain ⟨heard, result, later, serves, ran, noted⟩ := fetchEach_serves plain [.days symbol range] t source
    have byDay : ∀ h ∈ heard, h.request.form = Record.filedByDay symbol := fun h member => by
      rw [List.mem_singleton.mp (serves.chart_of_mem h member).1]
      rfl
    rw [none] at scanned scannedNoted
    have reached := (overDaysAt_of_none pace scanned).trans (fetchSpan_eq_fetchEach _ _ _)
    have reachedNoted := (overDaysAt_of_none pace scannedNoted).trans (fetchSpan_eq_fetchEach _ _ _)
    simp only [filed_eq_points byDay, map_chart_request] at ran noted
    refine ⟨heard, result, later, [], [], ?_, List.nil_prefix, Nat.zero_lt_of_lt (pace.ahead_lt []),
      fun _ => rfl, rfl, ?_, fun earlier => ?_⟩
    · simpa only [requests, if_pos none] using serves
    · rw [reached, ran, none, List.append_nil]
      cases result <;> rfl
    · rw [reachedNoted, noted, none, List.append_nil, List.append_nil]
      cases result <;> rfl
  · obtain ⟨heard, result, between, late, dropped, serves, front, few, fine, besides, ran, noted⟩ :=
      fetchDaysAt_serves plain pace symbol missing t source
    have byDay : ∀ h ∈ heard, h.request.form = Record.filedByDay symbol := fun h member => by
      obtain ⟨day, _, same⟩ := List.mem_map.mp (serves.chart_of_mem h member).1
      rw [← same]
      rfl
    have reached := overDaysAt_of_some pace none scanned
    have reachedNoted := overDaysAt_of_some pace none scannedNoted
    simp only [filed_eq_points byDay, map_chart_request] at ran noted
    refine ⟨heard, result, between, late, dropped, ?_, front, few, ?_, besides, ?_, fun earlier => ?_⟩
    · simpa only [requests, if_neg none] using serves
    · exact fun ended => fine (ended.resolve_left none)
    · rw [reached]
      exact run_map ran _
    · rw [reachedNoted]
      exact run_map (noted earlier) _

/-- How such a query goes with one request after another. -/
theorem overSpan_serves (plain : exchange.store = Database.store) (filled : t.Filled) (today : Date)
    (symbol : String) {span : Span} (several : span ≠ .oneDay) (source : τ) :
    let range := if span = .byDate then .oneMonth else span
    let window := range.window (anchor today)
    let hits := window.filterMap (exchange.storedWhole? ⟨some t⟩ symbol)
    let missing := window.filter fun day => (exchange.storedWhole? ⟨some t⟩ symbol day).isNone
    let requests := if hits = [] then [.days symbol range] else missing.map (.wholeDay symbol .oneMonth)
    ∃ heard result later, exchange.provider.Serves requests source heard result later ∧
      let outcome : Outcome Database (List Record) := ⟨result.map (hits ++ ·),
        ⟨some (t.putEach ((heard.flatMap Heard.points).map (·.filedByDay symbol)))⟩,
        (heard.map Heard.request).map .chart⟩
      exchange.overSpan ⟨some t⟩ today symbol span source = (outcome, later) ∧
      ∀ earlier, exchange.recorded.overSpan ⟨some t⟩ today symbol span (source, earlier) =
        (outcome, later, earlier ++ heard) := by
  intro range window hits missing requests
  obtain ⟨heard, result, later, late, dropped, serves, _, few, _, besides, ran, noted⟩ :=
    overSpanAt_serves plain filled .inTurn today symbol several source
  -- Nothing is under way behind a day.
  obtain rfl : late = [] := List.length_eq_zero_iff.mp (Nat.lt_one_iff.mp few)
  obtain rfl : dropped = [] := List.map_eq_nil_iff.mp besides
  simp only [List.append_nil] at ran noted
  exact ⟨heard, result, later, serves, ran, noted⟩

/-- What such a query asks for at some pace. Without a stored day it asks for the span, and else for the
days that miss a record, newest first, up to the first that fails and those that are under way behind it. -/
theorem overSpanAt_asks (plain : exchange.store = Database.store) (filled : t.Filled) (pace : Pace)
    (today : Date) (symbol : String) {span : Span} (several : span ≠ .oneDay) (source : τ) :
    let range := if span = .byDate then .oneMonth else span
    let window := range.window (anchor today)
    let hits := window.filterMap (exchange.storedWhole? ⟨some t⟩ symbol)
    let missing := window.filter fun day => (exchange.storedWhole? ⟨some t⟩ symbol day).isNone
    let call := exchange.overSpanAt pace ⟨some t⟩ today symbol span source
    let asked (days : List Date) : List Request :=
      days.map fun day => .chart (.wholeDay symbol .oneMonth day)
    (hits = [] → call.1.requests = [.chart (.days symbol range)]) ∧
    (hits ≠ [] →
      (∃ fetched, call.1.result = .ok (hits ++ fetched) ∧ call.1.requests = asked missing) ∨
      ∃ e done failing late rest, call.1.result = .error e ∧ missing = done ++ failing :: (late ++ rest) ∧
        late.length < pace.width ∧ call.1.requests = asked (done ++ failing :: late) ∧ ∃ between after,
          exchange.provider.chart (.wholeDay symbol .oneMonth failing) between = (.error e, after) ∧
          call.2 = (exchange.askDays symbol late after).2) := by
  intro range window hits missing call asked
  obtain ⟨heard, result, between, late, dropped, serves, front, few, fine, besides, ran, _⟩ :=
    overSpanAt_serves plain filled pace today symbol several source
  change exchange.provider.Serves (if hits = [] then _ else missing.map _) _ _ _ _ at serves
  simp only [call, ran, List.map_append, besides]
  constructor
  · intro none
    rw [if_pos none] at serves
    rw [serves.requests_singleton, fine (.inl none)]
    rfl
  · intro some
    rw [if_neg some] at serves
    cases result with
    | ok fetched =>
      refine .inl ⟨fetched, rfl, ?_⟩
      rw [serves.of_ok.1, fine (.inr ⟨fetched, rfl⟩), List.map_map, List.map_nil, List.map_nil, List.append_nil]
      rfl
    | error e =>
      -- The days that are under way are the next behind the one that failed.
      obtain ⟨done, failing, behind, earlier, split, left, rfl, made, _, before, failed⟩ := serves.of_error_map
      obtain ⟨rest, rfl⟩ : late <+: behind := left ▸ front
      refine .inr ⟨e, done, failing, late, rest, rfl, split, few, ?_, before, between, failed, rfl⟩
      simp only [asked, List.map_append, List.map_cons, made, List.map_map, List.append_assoc]
      rfl

/-- Where all days of a window are stored, they are what such a query gives at any pace, and nothing is asked
for or written. -/
theorem overSpanAt_of_stored (plain : exchange.store = Database.store) (filled : t.Filled) (pace : Pace)
    (today : Date) (symbol : String) {span : Span} (several : span ≠ .oneDay) (source : τ) :
    let window := (if span = .byDate then Span.oneMonth else span).window (anchor today)
    let hits := window.filterMap (exchange.storedWhole? ⟨some t⟩ symbol)
    window ≠ [] → (∀ day ∈ window, (exchange.storedWhole? ⟨some t⟩ symbol day).isSome) →
    exchange.overSpanAt pace ⟨some t⟩ today symbol span source = (⟨.ok hits, ⟨some t⟩, []⟩, source) ∧
      hits.map (·.key.date) = window := by
  intro window hits nonempty stored
  have dates : hits.map (·.key.date) = window := by
    have dated : ∀ day ∈ window, ∀ record,
        exchange.storedWhole? ⟨some t⟩ symbol day = some record → record.key.date = day := by
      intro day _ record found
      rw [storedWhole?_filled plain filled] at found
      rw [(filled.of_held_wholeDay found).1]
      rfl
    rw [dates_of_hits dated, List.filter_eq_self]
    exact stored
  have served : hits ≠ [] := by
    intro none
    rw [none] at dates
    exact nonempty dates.symm
  have complete : (window.filter fun day => (exchange.storedWhole? ⟨some t⟩ symbol day).isNone) = [] := by
    rw [List.filter_eq_nil_iff]
    intro day member
    simp [Option.isSome_iff_ne_none.mp (stored day member)]
  obtain ⟨heard, result, between, late, dropped, serves, _, _, fine, besides, ran, _⟩ :=
    overSpanAt_serves plain filled pace today symbol several source
  -- With no day left, no request is served and nothing is filed.
  rw [if_neg served, complete] at serves
  cases serves
  obtain rfl : late = [] := fine (.inr ⟨[], rfl⟩)
  obtain rfl : dropped = [] := List.map_eq_nil_iff.mp besides
  refine ⟨ran.trans ?_, dates⟩
  simp [Except.map, hits, window]

end Exchange

end PriceHistory
