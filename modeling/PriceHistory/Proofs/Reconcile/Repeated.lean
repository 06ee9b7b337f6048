import PriceHistory.Proofs.Reconcile.FilledDays

/-!
A query for the days of a span, made again. The days that the first has fetched or found are served to
the second, and only the others are left for it to fetch.
-/
namespace PriceHistory.Exchange

open PriceHistory.Calendar PriceHistory.Database

variable {τ : Type} {exchange : Exchange Database (StateM τ)} {t : Table}

/-- A query for a span of more than one day over a table that nothing but writes has filled, and the same
query after it, each at any pace and whatever became of the first. A day is then served exactly if it was
stored before or the first has taken a point dated to it, and it is served with the last such point, else as
it was stored. Where the first succeeds, it has taken all its answers. With a day of the window served, the
second fetches the others, newest first, up to the first that fails and those under way behind it; else it
fetches the span. Where each day of the window was stored or fetched, it asks for nothing. -/
theorem overSpan_repeated (plain : exchange.store = Database.store) (filled : t.Filled) (today : Date)
    (symbol : String) {span : Span} (several : span ≠ .oneDay) (pace pace' : Pace) (source : τ) :
    let first := exchange.overSpanAt pace ⟨some t⟩ today symbol span source
    let range := if span = .byDate then .oneMonth else span
    let window := range.window (anchor today)
    let before := exchange.storedWhole? ⟨some t⟩ symbol
    let served := exchange.storedWhole? first.1.store symbol
    let hits := window.filterMap served
    let missing := window.filter fun day => (served day).isNone
    ∃ heard dropped, exchange.recorded.overSpanAt pace ⟨some t⟩ today symbol span (source, []) =
        (first.1, first.2, heard ++ dropped) ∧
      ((∃ records, first.1.result = .ok records) → dropped = []) ∧
      let points := heard.flatMap Heard.points
      (∀ day, served day = ((points.findRev? fun p => p.key.date = day).map fun p =>
        (p.filedByDay symbol).readBack).or (before day)) ∧
      (∀ day, (served day).isSome ↔ (before day).isSome ∨ ∃ p ∈ points, p.key.date = day) ∧
      ∀ later : τ,
        let again := exchange.overSpanAt pace' first.1.store today symbol span later
        let asked (days : List Date) : List Request :=
          days.map fun day => .chart (.wholeDay symbol .oneMonth day)
        (hits = [] → again.1.requests = [.chart (.days symbol range)]) ∧
        (hits ≠ [] →
          (∃ fetched, again.1.result = .ok (hits ++ fetched) ∧ again.1.requests = asked missing) ∨
          ∃ e done failing late rest, again.1.result = .error e ∧
            missing = done ++ failing :: (late ++ rest) ∧ late.length < pace'.width ∧
            again.1.requests = asked (done ++ failing :: late) ∧ ∃ between after,
              exchange.provider.chart (.wholeDay symbol .oneMonth failing) between = (.error e, after) ∧
              again.2 = (exchange.askDays symbol late after).2) ∧
        (window ≠ [] → (∀ day ∈ window, (before day).isSome ∨ ∃ p ∈ points, p.key.date = day) →
          again = (⟨.ok hits, first.1.store, []⟩, later) ∧ hits.map (·.key.date) = window) := by
  intro first range window before served hits missing
  obtain ⟨heard, result, between, late, dropped, _, _, _, fine, besides, ran, noted⟩ :=
    overSpanAt_serves plain filled pace today symbol several source
  let points := heard.flatMap Heard.points
  have refilled : (t.putEach (points.map (·.filedByDay symbol))).Filled := filled.putEach _
  have left : first.1.store = ⟨some (t.putEach (points.map (·.filedByDay symbol)))⟩ :=
    congrArg (·.1.store) ran
  have known (day : Date) :
      (served day).isSome ↔ (before day).isSome ∨ ∃ p ∈ points, p.key.date = day := by
    simp only [served, left]
    exact storedWhole?_filedByDay_isSome_iff plain filled symbol points day
  refine ⟨heard, dropped, ?_, ?_, ?_, known, ?_⟩
  · rw [noted [], List.nil_append]
    exact congrArg (fun call => (call.1, call.2, heard ++ dropped)) ran.symm
  · rintro ⟨records, success⟩
    have ended : first.1.result = _ := congrArg (·.1.result) ran
    cases result with
    | error e => cases ended.symm.trans success
    | ok own =>
      rw [fine (.inr ⟨own, rfl⟩)] at besides
      exact List.map_eq_nil_iff.mp besides
  · intro day
    simp only [served, left]
    exact storedWhole?_filedByDay plain filled symbol points day
  · -- The second query is one over the table that the first has left.
    intro later again asked
    simp only [again, hits, missing, served, left] at known ⊢
    obtain ⟨bulk, singly⟩ := overSpanAt_asks plain refilled pace' today symbol several later
    refine ⟨bulk, singly, fun nonempty stored => ?_⟩
    exact overSpanAt_of_stored plain refilled pace' today symbol several later nonempty
      fun day member => (known day).mpr (stored day member)

/-- A point of a day of June as a whole, that closes at some price. -/
private def dayPoint (day : Nat) (close : Option Decimal) : Record :=
  ⟨.of "aapl" (.ofJune day) .wholeDay, none, none, none, close, .zero⟩

/-- A provider with two points of each day, and one more of the 23rd beside those of the 24th. -/
private def corrected : Provider (StateM Unit) where
  chart
    | .wholeDay _ _ day => pure (.ok ((if day.day = 24 then [dayPoint 23 (Decimal.of? 3 0)] else []) ++
        [dayPoint day.day (Decimal.of? 1 0), dayPoint day.day (Decimal.of? 2 0)]))
    | _ => pure (.ok [])
  listings := pure (.ok [])
  lastTrades _ := pure (.ok [])

/-- Only the 23rd is stored before five days are asked for, four of them at once. When they are asked for
again nothing is left to fetch, and the 23rd too is served with the point fetched for it. -/
theorem overSpan_repeated_quiet :
    let exchange : Exchange Database (StateM Unit) := ⟨Database.store, corrected⟩
    let t := Table.empty.put (dayPoint 23 none)
    let first := exchange.overSpanAt (.aheadBy 3) ⟨some t⟩ (.ofJune 26) "aapl" .fiveDays ()
    let again := exchange.overSpanAt (.aheadBy 3) first.1.store (.ofJune 26) "aapl" .fiveDays ()
    first.1.requests.length = 4 ∧ again.1.requests = [] ∧
      again.1.result = .ok [dayPoint 25 (Decimal.of? 2 0), dayPoint 24 (Decimal.of? 2 0),
        dayPoint 23 (Decimal.of? 3 0), dayPoint 22 (Decimal.of? 2 0), dayPoint 21 (Decimal.of? 2 0)] := by
  intro exchange t first again
  have filled : t.Filled := .put .empty _
  obtain ⟨heard, dropped, noted, _, _, known, repeated⟩ := overSpan_repeated
    (show exchange.store = Database.store from rfl) filled (.ofJune 26) "aapl"
    (show Span.fiveDays ≠ .oneDay by decide) (.aheadBy 3) (.aheadBy 3) ()
  have all : ∀ day ∈ Span.fiveDays.window (anchor (.ofJune 26)),
      (exchange.storedWhole? first.1.store "aapl" day).isSome := by
    decide +kernel
  obtain ⟨quiet, _⟩ := (repeated ()).2.2 (by decide +kernel)
    fun day member => (known day).mp (all day member)
  refine ⟨by decide +kernel, congrArg (·.1.requests) quiet, (congrArg (·.1.result) quiet).trans ?_⟩
  decide +kernel

/-- A provider that answers a span with one point of its last day, which closes at a zero with a minus
sign, and each day in one way. -/
private def spanThen (answer : Except Failure (List Record)) : Provider (StateM Unit) where
  chart
    | .days _ _ =>
      pure (.ok [dayPoint 25 (some { (Decimal.of? 0 28).getD .zero with negative := true })])
    | _ => pure answer
  listings := pure (.ok [])
  lastTrades _ := pure (.ok [])

/-- Five days are fetched as one, with a point of the last. Four are left to fetch when they are asked for
again. If the first of these fails then the others are not asked for, save one where two requests are made at
once; if they are answered then the last day is returned with them, without the sign that it was fetched
with. -/
theorem repeat_stops_and_loses_sign :
    let exchange (answer : Except Failure (List Record)) : Exchange Database (StateM Unit) :=
      ⟨Database.store, spanThen answer⟩
    let first (answer : Except Failure (List Record)) :=
      (exchange answer).overSpan Database.empty (.ofJune 26) "aapl" .fiveDays ()
    let again (pace : Pace) (answer : Except Failure (List Record)) :=
      (exchange answer).overSpanAt pace (first answer).1.store (.ofJune 26) "aapl" .fiveDays ()
    let down : Except Failure (List Record) := .error (.provider (.network "timed out"))
    let signed := dayPoint 25 (some { (Decimal.of? 0 28).getD .zero with negative := true })
    (first down).1.result = .ok [signed] ∧ (first (.ok [])).1.result = .ok [signed] ∧
      (again .inTurn down).1.requests.length = 1 ∧ (again (.aheadBy 1) down).1.requests.length = 2 ∧
      (again .inTurn (.ok [])).1.requests.length = 4 ∧
      ∃ served, (again .inTurn (.ok [])).1.result = .ok [served] ∧
        served.close.map Decimal.text ≠ signed.close.map Decimal.text := by
  intro exchange first again down signed
  refine ⟨?_, ?_, ?_, ?_, ?_, signed.readBack, ?_⟩ <;> decide +kernel

end PriceHistory.Exchange
