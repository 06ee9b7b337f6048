import PriceHistory.Proofs.Calendar.Order
import PriceHistory.Proofs.Database.FiniteMap
import PriceHistory.Proofs.Reconcile.Minutes
import PriceHistory.Proofs.Reconcile.Sequence

/-!
A day of minutes that is fetched once and served from then on. Every bar of the session that the first
query returned is served again with its numbers, whatever is asked in between that spares the day; bars
outside the session are stored and never served.
-/
namespace PriceHistory

open PriceHistory.Calendar PriceHistory.Database

/-- Is a record a minute of the session? -/
def Record.InSession (r : Record) : Prop :=
  ∃ time ∈ TimeOfDay.sessionMinutes, r.key.slot = .minute time

theorem Record.key_readBack_of_inSession {r : Record} (inside : r.InSession) :
    r.readBack.key = r.key := by
  obtain ⟨time, member, slot⟩ := inside
  have whole : r.key.slot.readBack = r.key.slot := by rw [slot, Slot.readBack_session member]
  change Key.mk _ _ r.key.slot.readBack = _
  rw [whole]

theorem Slot.markerTime_mem : markerTime ∈ TimeOfDay.sessionMinutes :=
  TimeOfDay.mem_sessionMinutes.mpr (by decide)

theorem Slot.text_session_ne {time : TimeOfDay} (member : time ∈ TimeOfDay.sessionMinutes) :
    (minute time).text ≠ wholeDay.text := by
  intro same
  have read := readBack_inj.mpr same
  rw [readBack_session member] at read
  cases read

/-- The marker is looked for in the row of the minute 10:50. -/
theorem Database.Table.has_marker (t : Table) (symbol : String) (day : Date) :
    t.has (.of symbol day .marker) = t.has (.of symbol day (.minute Slot.markerTime)) := by
  have cells : RowKey.of (.of symbol day .marker) =
      .of (.of symbol day (.minute Slot.markerTime)) :=
    RowKey.of_eq_iff.mpr ⟨rfl, rfl, Slot.text_markerTime.symm⟩
  rw [has, has, cells]

variable {τ : Type} {exchange : Exchange Database (StateM τ)} {t : Table} {symbol : String} {day : Date}

/-- Has the provider no point of a day of a symbol where a plan asks it about another day of that
symbol? -/
def Plan.Spares (exchange : Exchange Database (StateM τ)) (symbol : String) (day : Date) : Plan → Prop
  | minutes other span asked => Symbol.of other = .of symbol → asked ≠ day →
    ∀ before points later, exchange.provider.chart (.onDay other span asked) before =
      (.ok points, later) → ∀ p ∈ points, p.key.date ≠ day
  | _ => True

namespace Exchange

/-! ### What leaves a marked day alone -/

private theorem not_brought (plain : exchange.store = Database.store) (filled : t.Filled)
    (marked : t.has (.of symbol day .marker) = true) {plan : Plan}
    (spares : plan.Spares exchange symbol day) {today : Date} {served : List Record}
    {requests : List ChartRequest} (read : plan.errand exchange ⟨some t⟩ today = .ok (served, requests))
    {request : ChartRequest} (member : request ∈ requests) {r : Record}
    (brings : exchange.Brings request r) {time : TimeOfDay} (inside : time ∈ TimeOfDay.sessionMinutes) :
    RowKey.of r.key ≠ .of (.of symbol day (.minute time)) := by
  intro cells
  obtain ⟨symbols, dates, slots⟩ := RowKey.of_eq_iff.mp cells
  obtain ⟨before, points, later, answered, p, among, rfl⟩ := brings
  cases plan with
  | nothing =>
    cases read
    cases member
  | minutes other span asked =>
    -- A day that is asked for is not marked, so it is another day or of another symbol.
    rw [Plan.errand, storedDay?_filled plain filled] at read
    by_cases known : t.has (.of other asked .marker) = true
    · rw [if_pos known] at read
      cases read
      cases member
    · rw [if_neg known] at read
      cases read
      rw [List.mem_singleton.mp member] at answered symbols dates
      have sameSymbol : Symbol.of other = .of symbol := symbols
      refine spares sameSymbol ?_ before points later answered p among dates
      rintro rfl
      apply known
      rw [← marked, Key.of, Key.of, sameSymbol]
  | days other span =>
    -- Days as a whole have another text than the minutes of the session.
    rw [Plan.form_of_days read request member] at slots
    exact Slot.text_session_ne inside slots.symm

/-- A query leaves the session of a marked day as it is, unless the provider has points of that day for
a request about another day. -/
theorem session_of_carryOut (plain : exchange.store = Database.store) (filled : t.Filled)
    (marked : t.has (.of symbol day .marker) = true) {plan : Plan}
    (spares : plan.Spares exchange symbol day) (today : Date) (source : τ) :
    ∃ after, (plan.carryOut exchange ⟨some t⟩ today source).1.store = ⟨some after⟩ ∧ after.Filled ∧
      ∀ time ∈ TimeOfDay.sessionMinutes, after.held (.of symbol day (.minute time)) =
        t.held (.of symbol day (.minute time)) := by
  obtain ⟨kept, stored, brought⟩ := store_of_carryOut plain plan t today source
  refine ⟨t.putEach kept, stored, filled.putEach kept, fun time inside => ?_⟩
  -- Nothing that the query writes is filed in a minute of the session, so none is overwritten.
  have none : kept.findRev? (fun r => RowKey.of r.key = .of (.of symbol day (.minute time))) = none := by
    rw [List.findRev?_eq_find?_reverse, List.find?_eq_none]
    intro r member same
    obtain ⟨served, requests, read, request, among, brings⟩ := brought r (List.mem_reverse.mp member)
    exact not_brought plain filled marked spares read among brings inside (of_decide_eq_true same)
  rw [filled.held_putEach, none]
  rfl

theorem session_of_after (plain : exchange.store = Database.store) (filled : t.Filled)
    (marked : t.has (.of symbol day .marker) = true) (queries : List (Date × PriceQuery))
    (spared : ∀ query ∈ queries, (query.2.plan query.1).Spares exchange symbol day) (source : τ) :
    ∃ after, (PriceQuery.after exchange (⟨some t⟩, source) queries).1 = ⟨some after⟩ ∧ after.Filled ∧
      ∀ time ∈ TimeOfDay.sessionMinutes, after.held (.of symbol day (.minute time)) =
        t.held (.of symbol day (.minute time)) := by
  let Kept (now : Database × τ) : Prop := ∃ after, now.1 = ⟨some after⟩ ∧ after.Filled ∧
    ∀ time ∈ TimeOfDay.sessionMinutes, after.held (.of symbol day (.minute time)) =
      t.held (.of symbol day (.minute time))
  change Kept (PriceQuery.after exchange (⟨some t⟩, source) queries)
  refine List.foldlRecOn queries _ ⟨t, rfl, filled, fun _ _ => rfl⟩ ?_
  rintro ⟨_, now⟩ ⟨between, rfl, refilled, held⟩ query member
  -- The marker is a minute of the session, and so the day stays marked.
  have still : between.has (.of symbol day .marker) = true := by
    rw [Table.has_marker, refilled.has_eq, held _ Slot.markerTime_mem, ← filled.has_eq,
      ← Table.has_marker, marked]
  obtain ⟨after, stored, filledAfter, same⟩ :=
    session_of_carryOut plain refilled still (spared query member) query.1 now
  rw [PriceQuery.leave_eq_carryOut]
  exact ⟨after, stored, filledAfter, fun time inside => (same time inside).trans (held time inside)⟩

/-- A query for a marked day is served with the session that the day had before some queries which spare
it. -/
theorem ask_after_spared (plain : exchange.store = Database.store) (filled : t.Filled)
    (marked : t.has (.of symbol day .marker) = true) {between : List (Date × PriceQuery)}
    (spared : ∀ other ∈ between, (other.2.plan other.1).Spares exchange symbol day) {query : PriceQuery}
    {today : Date} {symbol' : String} {span : Span} (sameSymbol : Symbol.of symbol' = .of symbol)
    (planned : query.plan today = .minutes symbol' span day) (source : τ) :
    let now := PriceQuery.after exchange (⟨some t⟩, source) between
    query.ask exchange now.1 today now.2 = (.quiet (.ok (TimeOfDay.sessionMinutes.filterMap fun time =>
      t.held (.of symbol day (.minute time)))) now.1, now.2) := by
  intro now
  obtain ⟨after, left, filledAfter, held⟩ := session_of_after plain filled marked between spared source
  have sameKey (slot : Slot) : Key.of symbol' day slot = .of symbol day slot := by
    rw [Key.of, Key.of, sameSymbol]
  have still : after.has (.of symbol' day .marker) = true := by
    rw [sameKey, Table.has_marker, filledAfter.has_eq, held _ Slot.markerTime_mem, ← filled.has_eq,
      ← Table.has_marker, marked]
  have session : (TimeOfDay.sessionMinutes.filterMap fun time =>
      after.held (.of symbol' day (.minute time))) = TimeOfDay.sessionMinutes.filterMap fun time =>
        t.held (.of symbol day (.minute time)) := by
    apply List.filterMap_congr
    intro time inside
    rw [sameKey, held time inside]
  have nowStore : now.1 = ⟨some after⟩ := left
  rw [PriceQuery.ask_eq_carryOut, planned, nowStore, Plan.carryOut,
    onDay_marked plain filledAfter still, session]
  rfl

/-! ### What a day gives that was fetched as bars -/

/-- Bars of one day at different minutes are held each in its minute, as they are read back. -/
theorem held_of_bars (filled : t.Filled) {points : List Record}
    (bars : ∀ p ∈ points, p.key.date = day ∧ ∃ time, p.key.slot = .minute time)
    (distinct : (points.map (·.key.slot)).Nodup) (symbol : String) {p : Record} (member : p ∈ points)
    {time : TimeOfDay} (slot : p.key.slot = .minute time) :
    (t.putEach (points.map (·.filedUnder symbol))).held (.of symbol day (.minute time)) =
      some (p.filedUnder symbol).readBack := by
  -- The last point answered for the minute is the only one, because no two bars share a minute.
  have here : p.key.date = day ∧ p.key.slot.text = time.text := ⟨(bars p member).1, by rw [slot]; rfl⟩
  have found : points.findRev? (fun q => q.key.date = day ∧ q.key.slot.text = time.text) = some p := by
    rw [List.findRev?_eq_find?_reverse]
    cases last : points.reverse.find? fun q => q.key.date = day ∧ q.key.slot.text = time.text with
    | none =>
      have missed := List.find?_eq_none.mp last p (List.mem_reverse.mpr member)
      exact absurd (decide_eq_true here) missed
    | some q =>
      have among : q ∈ points := List.mem_reverse.mp (List.mem_of_find?_eq_some last)
      obtain ⟨_, other, slot'⟩ := bars q among
      have text : q.key.date = day ∧ q.key.slot.text = time.text := by
        simpa using List.find?_some last
      have same : other = time := by
        rw [slot'] at text
        exact TimeOfDay.text_inj.mp text.2
      rw [List.inj_on_of_nodup_map distinct among member (by rw [slot', slot, same])]
  rw [Table.held_filed filled, found, Record.filedUnder, slot]
  rfl

/-- Where nothing was held of the day before, a minute holds a bar of that minute or nothing. -/
theorem held_of_bars_iff (filled : t.Filled) (fresh : ∀ slot, t.has (.of symbol day slot) = false)
    {points : List Record} (bars : ∀ p ∈ points, p.key.date = day ∧ ∃ time, p.key.slot = .minute time)
    (distinct : (points.map (·.key.slot)).Nodup) {time : TimeOfDay} {r : Record} :
    (t.putEach (points.map (·.filedUnder symbol))).held (.of symbol day (.minute time)) = some r ↔
      ∃ p ∈ points, p.key.slot = .minute time ∧ (p.filedUnder symbol).readBack = r := by
  constructor
  · intro found
    have present : (t.putEach (points.map (·.filedUnder symbol))).has
        (.of symbol day (.minute time)) = true := by
      rw [(filled.putEach _).has_eq, found]
      rfl
    rcases Table.has_filed.mp present with old | ⟨p, among, _, text⟩
    · rw [fresh] at old
      cases old
    · obtain ⟨_, other, slot⟩ := bars p among
      rw [slot] at text
      rw [TimeOfDay.text_inj.mp text] at slot
      have own := held_of_bars filled bars distinct symbol among slot
      exact ⟨p, among, slot, Option.some.inj (own.symm.trans found)⟩
  · rintro ⟨p, among, slot, rfl⟩
    exact held_of_bars filled bars distinct symbol among slot

/-- A day without a stored row is asked for once, and the answer consists of bars of that day at
different minutes, one of them at 10:50. From then on every query for that day, of the symbol in any
case, is served without a request and changes nothing, whatever was asked in between and spares the
day. It gives exactly the bars of the session that the first query returned, each with its key and its
numbers. -/
theorem session_served_again (plain : exchange.store = Database.store) (filled : t.Filled)
    (fresh : ∀ slot, t.has (.of symbol day slot) = false) {query : PriceQuery} {today : Date}
    {span : Span} (planned : query.plan today = .minutes symbol span day) {source later : τ}
    {points : List Record}
    (answer : exchange.provider.chart (.onDay symbol span day) source = (.ok points, later))
    (bars : ∀ p ∈ points, p.key.date = day ∧ ∃ time, p.key.slot = .minute time)
    (distinct : (points.map (·.key.slot)).Nodup)
    (marking : .minute Slot.markerTime ∈ points.map (·.key.slot))
    {between : List (Date × PriceQuery)}
    (spared : ∀ other ∈ between, (other.2.plan other.1).Spares exchange symbol day)
    {again : PriceQuery} {onceMore : Date} {symbol' : String} {span' : Span}
    (sameSymbol : Symbol.of symbol' = .of symbol)
    (replanned : again.plan onceMore = .minutes symbol' span' day) :
    let first := query.ask exchange ⟨some t⟩ today source
    let now := PriceQuery.after exchange (first.1.store, first.2) between
    let call := again.ask exchange now.1 onceMore now.2
    ∃ returned served, first.1.result = .ok returned ∧ call.1.result = .ok served ∧
      call.1.requests = [] ∧ call.1.store = now.1 ∧ call.2 = now.2 ∧
      (∀ w ∈ returned, w.InSession → ∃ r ∈ served, r.key = w.key ∧ r.figures = w.figures) ∧
      ∀ r ∈ served, ∃ w ∈ returned, w.InSession ∧ r.key = w.key ∧ r.figures = w.figures := by
  intro first now call
  let returned := points.map (·.filedUnder symbol)
  let stored := t.putEach returned
  have ran : first = (⟨.ok returned, ⟨some stored⟩, [.chart (.onDay symbol span day)]⟩, later) := by
    change query.ask exchange ⟨some t⟩ today source = _
    rw [PriceQuery.ask_eq_carryOut, planned, Plan.carryOut,
      run_onDay_unmarked plain filled (by simp [fresh]) span answer, received_ok plain]
  have marked : stored.has (.of symbol day .marker) = true := by
    obtain ⟨p, member, slot⟩ := List.mem_map.mp marking
    refine (Table.marked_filed (fresh .marker)).mpr ⟨p, member, (bars p member).1, ?_⟩
    rw [slot]
    exact Slot.text_markerTime
  have answered : call = (.quiet (.ok (TimeOfDay.sessionMinutes.filterMap fun time =>
      stored.held (.of symbol day (.minute time)))) now.1, now.2) := by
    have asked :=
      ask_after_spared plain (filled.putEach returned) marked spared sameSymbol replanned later
    dsimp only [call, now]
    rw [ran]
    exact asked
  refine ⟨returned, _, by rw [ran], by rw [answered]; rfl, by rw [answered]; rfl,
    by rw [answered]; rfl, by rw [answered], ?_, ?_⟩
  -- What was returned in the session is held in its minute, and what is held there was returned.
  · rintro w member ⟨time, inside, slot⟩
    obtain ⟨p, among, rfl⟩ := List.mem_map.mp member
    have there := (held_of_bars_iff filled fresh bars distinct).mpr ⟨p, among, slot, rfl⟩
    exact ⟨_, List.mem_filterMap.mpr ⟨time, inside, there⟩,
      Record.key_readBack_of_inSession ⟨time, inside, slot⟩, Record.figures_readBack _⟩
  · intro r member
    obtain ⟨time, inside, there⟩ := List.mem_filterMap.mp member
    obtain ⟨p, among, slot, rfl⟩ := (held_of_bars_iff filled fresh bars distinct).mp there
    have session : (p.filedUnder symbol).InSession := ⟨time, inside, slot⟩
    exact ⟨_, List.mem_map_of_mem among, session, Record.key_readBack_of_inSession session,
      Record.figures_readBack _⟩

/-- A bar of a day that closes at a whole price. -/
private def barOn (day : Date) (hour minute close : Nat) : Record :=
  ⟨.of "aapl" day ((TimeOfDay.of? hour minute).elim .wholeDay .minute), none, none, none,
    Decimal.of? close 0, .zero⟩

/-- A provider that has three bars of every day, the second of them after the session. -/
private def threeBars : Provider (StateM Unit) where
  chart
    | .onDay _ _ day => pure (.ok [barOn day 10 50 1, barOn day 17 0 2, barOn day 9 30 3])
    | _ => pure (.ok [])
  listings := pure (.ok [])
  lastTrades _ := pure (.ok [])

/-- Five days and another day are asked for in between, and the bar at 09:30 is served again. -/
theorem session_served_again_between :
    let exchange : Exchange Database (StateM Unit) := ⟨Database.store, threeBars⟩
    let day := Date.ofJune 25
    let today := Date.ofJune 26
    let query : PriceQuery := .onDate "aapl" .byDate day.compact
    let first := query.ask exchange ⟨some .empty⟩ today ()
    let now := PriceQuery.after exchange (first.1.store, first.2)
      [(today, .overSpan "aapl" .fiveDays), (today, .onDate "aapl" .byDate (Date.ofJune 24).compact)]
    let call := (PriceQuery.onDate "AAPL" .oneYear day.compact).ask exchange now.1 today now.2
    call.1.requests = [] ∧ ∃ served, call.1.result = .ok served ∧
      (∃ r ∈ served, r.key = (barOn day 9 30 3).key ∧ r.figures = (barOn day 9 30 3).figures) ∧
      ∀ r ∈ served, r.key ≠ (barOn day 17 0 2).key := by
  intro exchange day today query
  have planned : query.plan today = .minutes "aapl" .byDate day :=
    PriceQuery.plan_onDate_compact (by decide) _ _ _
  have replanned : (PriceQuery.onDate "AAPL" .oneYear day.compact).plan today =
      .minutes "AAPL" .oneYear day := PriceQuery.plan_onDate_compact (by decide) _ _ _
  have other : (PriceQuery.onDate "aapl" .byDate (Date.ofJune 24).compact).plan today =
      .minutes "aapl" .byDate (.ofJune 24) := PriceQuery.plan_onDate_compact (by decide) _ _ _
  have answer : exchange.provider.chart (.onDay "aapl" .byDate day) () =
      (.ok [barOn day 10 50 1, barOn day 17 0 2, barOn day 9 30 3], ()) := rfl
  have spared : ∀ q ∈ [(today, PriceQuery.overSpan "aapl" .fiveDays),
      (today, .onDate "aapl" .byDate (Date.ofJune 24).compact)],
      (q.2.plan q.1).Spares exchange "aapl" day := by
    intro q member
    rcases List.mem_cons.mp member with rfl | member
    · exact trivial
    · rw [List.mem_singleton.mp member, other]
      rintro _ _ _ points _ answered
      obtain ⟨bars, _⟩ := Prod.mk.inj answered
      cases bars
      decide +kernel
  have bars : ∀ p ∈ [barOn day 10 50 1, barOn day 17 0 2, barOn day 9 30 3],
      p.key.date = day ∧ ∃ time, p.key.slot = .minute time := by
    simp only [List.forall_mem_cons]
    exact ⟨⟨rfl, _, rfl⟩, ⟨rfl, _, rfl⟩, ⟨rfl, _, rfl⟩, by simp⟩
  obtain ⟨returned, served, result, resultAgain, quiet, _, _, again, session⟩ :=
    session_served_again rfl .empty (fun _ => rfl) planned answer bars (by decide +kernel)
      (by decide +kernel) spared (by decide +kernel) replanned
  have fetched : (query.ask exchange ⟨some .empty⟩ today ()).1.result =
      .ok [barOn day 10 50 1, barOn day 17 0 2, barOn day 9 30 3] := by
    decide +kernel
  have returns := Except.ok.inj (result.symm.trans fetched)
  have inside : (barOn day 9 30 3).InSession :=
    ⟨⟨9, 30, by omega, by omega⟩, TimeOfDay.mem_sessionMinutes.mpr (by decide), rfl⟩
  have late : ¬(barOn day 17 0 2).InSession := by
    rintro ⟨time, member, slot⟩
    have same : Slot.minute ⟨17, 0, by omega, by omega⟩ = .minute time := slot
    cases same
    exact absurd (TimeOfDay.mem_sessionMinutes.mp member).2 (by decide)
  have among : barOn day 9 30 3 ∈ returned := by
    rw [returns]
    simp
  refine ⟨quiet, served, resultAgain, again (barOn day 9 30 3) among inside, ?_⟩
  intro r member sameKey
  obtain ⟨w, _, ⟨time, within, slot⟩, key, _⟩ := session r member
  apply late
  refine ⟨time, within, ?_⟩
  rw [← sameKey, key]
  exact slot

/-- A day is fetched as two bars of it, at 10:50 and at 17:00. The first query returns both, and a later
one is served with the first alone. -/
theorem late_bar_not_served_again :
    let exchange : Exchange Database (StateM Unit) :=
      ⟨Database.store, ⟨fun _ => pure (.ok [barOn (.ofJune 25) 10 50 1, barOn (.ofJune 25) 17 0 2]),
        pure (.ok []), fun _ => pure (.ok [])⟩⟩
    let query : PriceQuery := .onDate "aapl" .byDate "20210625"
    let first := query.ask exchange Database.empty (.ofJune 26) ()
    let second := query.ask exchange first.1.store (.ofJune 26) ()
    first.1.result = .ok [barOn (.ofJune 25) 10 50 1, barOn (.ofJune 25) 17 0 2] ∧
      (∀ slot, Table.empty.has (.of "aapl" (.ofJune 25) slot) = false) ∧
      second.1.requests = [] ∧ second.1.result = .ok [barOn (.ofJune 25) 10 50 1] := by
  refine ⟨?_, fun _ => rfl, ?_, ?_⟩ <;> decide +kernel

end Exchange

end PriceHistory
