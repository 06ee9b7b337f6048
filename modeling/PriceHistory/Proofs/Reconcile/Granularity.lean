import PriceHistory.Proofs.Calendar.Order
import PriceHistory.Proofs.Database.Agreement
import PriceHistory.Proofs.Reconcile.Sequence
import PriceHistory.Provider.Payload

/-!
Minutes and days in one table. Queries for days read and write the keys of days as a whole alone, so they
go alike over databases that agree on these. A query for minutes leaves them as they are, except where
the answer has a bar at midnight: its text is that of the day as a whole.
-/
namespace PriceHistory

open PriceHistory.Calendar PriceHistory.Database

/-- Is a key that of a day as a whole? -/
def Key.WholeDay (key : Key) : Prop :=
  key.slot = .wholeDay

namespace Exchange

variable {τ : Type} {exchange : Exchange Database (StateM τ)} {keys : Key → Prop} {a b : Database}

/-- Are two runs alike up to what their databases hold under other keys? -/
structure Alike (keys : Key → Prop) (x y : Outcome Database (List Record) × τ) : Prop where
  result : x.1.result = y.1.result
  requests : x.1.requests = y.1.requests
  provider : x.2 = y.2
  store : AgreeOn keys x.1.store y.1.store

theorem Alike.behind {x y : Outcome Database (List Record) × τ} (alike : Alike keys x y)
    (f : List Record → List Record) (earlier : List Request) :
    Alike keys (⟨x.1.result.map f, x.1.store, earlier ++ x.1.requests⟩, x.2)
      (⟨y.1.result.map f, y.1.store, earlier ++ y.1.requests⟩, y.2) where
  result := congrArg (Except.map f) alike.result
  requests := congrArg (earlier ++ ·) alike.requests
  provider := alike.provider
  store := alike.store

/-! ### Queries for days -/

/-- Requests whose points are filed under keys of agreement go alike. -/
theorem fetchEach_alike (plain : exchange.store = Database.store) (agree : AgreeOn keys a b)
    {requests : List ChartRequest} (own : ∀ request ∈ requests, ∀ r, keys (request.form r).key)
    (t : τ) : Alike keys (exchange.fetchEach requests a t) (exchange.fetchEach requests b t) := by
  -- Over the requests: the databases stay in agreement from one to the next, and the provider is one.
  induction requests generalizing a b t with
  | nil => exact ⟨rfl, rfl, rfl, agree⟩
  | cons request rest ih =>
    have later := fun other member => own other (List.mem_cons_of_mem request member)
    cases answered : exchange.provider.chart request t with
    | mk answer after =>
      rw [run_fetchEach_cons answered, run_fetchEach_cons answered]
      cases answer with
      | error e => exact ⟨rfl, rfl, rfl, agree⟩
      | ok points =>
        have keyed : ∀ r ∈ points.map request.form, keys r.key := by
          intro r member
          obtain ⟨p, _, rfl⟩ := List.mem_map.mp member
          exact own request List.mem_cons_self p
        -- The points are filed alike, and the other requests go on from there.
        obtain ⟨sameEnd, still⟩ := agree.putAll keyed
        rw [received, received, file, file, plain]
        generalize Database.store.putAll (points.map request.form) a = filed at sameEnd still
        generalize Database.store.putAll (points.map request.form) b = filed' at sameEnd still
        obtain ⟨done, contents⟩ := filed
        obtain ⟨done', contents'⟩ := filed'
        obtain rfl : done = done' := sameEnd
        cases done with
        | error e => exact ⟨rfl, rfl, rfl, still⟩
        | ok _ =>
          rw [Outcome.run_andThen_of_ok rfl, Outcome.run_andThen_of_ok rfl]
          exact (ih still later after).behind (points.map request.form ++ ·) [.chart request]

/-- A query for days goes alike over databases that agree on days as a whole. -/
theorem carryOut_alike (plain : exchange.store = Database.store) (agree : AgreeOn Key.WholeDay a b)
    (symbol : String) (span : Span) (today : Date) (t : τ) :
    Alike Key.WholeDay ((Plan.days symbol span).carryOut exchange a today t)
      ((Plan.days symbol span).carryOut exchange b today t) := by
  -- The reads look at days as a whole alone, so the same requests are left to make.
  have reads : (Plan.days symbol span).errand exchange a today =
      (Plan.days symbol span).errand exchange b today := by
    apply Plan.errand_congr
    rintro _ ⟨day, _, rfl⟩
    rw [plain]
    exact ⟨agree.has rfl, agree.find? rfl⟩
  cases read : (Plan.days symbol span).errand exchange a today with
  | error e =>
    rw [Plan.carryOut_of_error read, Plan.carryOut_of_error (reads ▸ read)]
    exact ⟨rfl, rfl, rfl, agree⟩
  | ok found =>
    obtain ⟨served, requests⟩ := found
    have own : ∀ request ∈ requests, ∀ r, Key.WholeDay (request.form r).key := by
      intro request member r
      rw [Plan.form_of_days read request member]
      rfl
    rw [Plan.carryOut_of_ok read, Plan.carryOut_of_ok (reads ▸ read)]
    exact (fetchEach_alike plain agree own t).behind (served ++ ·) []

/-- Queries for days leave databases that agree on days as a whole in this agreement, and the provider
the same. -/
theorem after_alike (plain : exchange.store = Database.store) (agree : AgreeOn Key.WholeDay a b)
    {queries : List (Date × PriceQuery)}
    (days : ∀ query ∈ queries, ∃ symbol span, query.2.plan query.1 = .days symbol span) (t : τ) :
    AgreeOn Key.WholeDay (PriceQuery.after exchange (a, t) queries).1
        (PriceQuery.after exchange (b, t) queries).1 ∧
      (PriceQuery.after exchange (a, t) queries).2 = (PriceQuery.after exchange (b, t) queries).2 := by
  let Related (x y : Database × τ) : Prop := AgreeOn Key.WholeDay x.1 y.1 ∧ x.2 = y.2
  change Related (PriceQuery.after exchange (a, t) queries) (PriceQuery.after exchange (b, t) queries)
  apply List.foldl_rel ⟨agree, rfl⟩
  rintro query member ⟨x, now⟩ ⟨y, _⟩ ⟨still, rfl⟩
  obtain ⟨symbol, span, planned⟩ := days query member
  rw [PriceQuery.leave_eq_carryOut, PriceQuery.leave_eq_carryOut, planned]
  have step := carryOut_alike plain still symbol span query.1 now
  exact ⟨step.store, step.provider⟩

/-! ### A query for minutes -/

/-- A query for minutes leaves the database as it is or files its answer. -/
theorem store_of_minutes (plain : exchange.store = Database.store) (db : Database) {symbol : String}
    {span : Span} {day : Date} (today : Date) {source later : τ} {points : List Record}
    (answer : exchange.provider.chart (.onDay symbol span day) source = (.ok points, later)) :
    let call := (Plan.minutes symbol span day).carryOut exchange db today source
    call.1.store = db ∨
      call.1.store = (Database.store.putAll (points.map (·.filedUnder symbol)) db).2 := by
  intro call
  -- Only a day that goes to the provider is written.
  cases stored : exchange.storedDay? db symbol day with
  | error e =>
    have ran : call = _ := congrFun (onDay_of_failed stored) source
    rw [ran]
    exact .inl rfl
  | ok found =>
    cases found with
    | some records =>
      have ran : call = _ := congrFun (onDay_of_stored stored) source
      rw [ran]
      exact .inl rfl
    | none =>
      have ran : call = _ := run_onDay_of_missing stored answer
      rw [ran, received, file, plain]
      exact .inr rfl

/-- A query for minutes changes nothing under the keys of days as a whole that its answer has no
midnight of. -/
theorem agreeOn_of_minutes (plain : exchange.store = Database.store) (db : Database) {symbol : String}
    {span : Span} {day : Date} (today : Date) {source later : τ} {points : List Record}
    (answer : exchange.provider.chart (.onDay symbol span day) source = (.ok points, later)) :
    AgreeOn (fun key => key.WholeDay ∧
        ∀ p ∈ points, p.key.date = key.date → p.key.slot.text ≠ Slot.wholeDayText)
      ((Plan.minutes symbol span day).carryOut exchange db today source).1.store db := by
  rcases store_of_minutes plain db today answer with same | filed
  · rw [same]
    exact .refl _ db
  · rw [filed]
    -- A point filed under such a key would be dated like it and have the text of a whole day.
    apply AgreeOn.of_apart
    rintro key ⟨whole, none⟩ r member ⟨dated, text⟩
    obtain ⟨p, among, rfl⟩ := List.mem_map.mp member
    rw [whole] at text
    exact none p among dated text

/-- A query for the minutes of a day, over any database. Every key of a day as a whole is there exactly
if it was, and gives what it gave, unless the answer has a point at midnight of that date. If the answer
has no point at midnight at all, every query for days that follows it, behind any others for days, comes
to the same result, the same requests and the same provider as without it. -/
theorem minutes_spare_days (plain : exchange.store = Database.store) (db : Database)
    {query : PriceQuery} {today : Date} {symbol : String} {span : Span} {day : Date}
    (planned : query.plan today = .minutes symbol span day) {source later : τ} {points : List Record}
    (answer : exchange.provider.chart (.onDay symbol span day) source = (.ok points, later)) :
    let filed := (query.ask exchange db today source).1.store
    (∀ key : Key, key.WholeDay →
      (∀ p ∈ points, p.key.date = key.date → p.key.slot.text ≠ Slot.wholeDayText) →
      filed.has key = db.has key ∧ filed.find? key = db.find? key) ∧
    ((∀ p ∈ points, p.key.slot.text ≠ Slot.wholeDayText) →
      ∀ (between : List (Date × PriceQuery)) (range : PriceQuery) (onDay : Date) (t : τ),
        (∀ other ∈ between, ∃ symbol span, other.2.plan other.1 = .days symbol span) →
        (∃ symbol span, range.plan onDay = .days symbol span) →
        let now := PriceQuery.after exchange (filed, t) between
        let without := PriceQuery.after exchange (db, t) between
        let call := range.ask exchange now.1 onDay now.2
        let call' := range.ask exchange without.1 onDay without.2
        call.1.result = call'.1.result ∧ call.1.requests = call'.1.requests ∧ call.2 = call'.2) := by
  intro filed
  have ran : filed = ((Plan.minutes symbol span day).carryOut exchange db today source).1.store := by
    change (query.ask exchange db today source).1.store = _
    rw [PriceQuery.ask_eq_carryOut, planned]
  have agree := agreeOn_of_minutes plain db today answer
  rw [← ran] at agree
  constructor
  · intro key whole none
    exact ⟨agree.has ⟨whole, none⟩, agree.find? ⟨whole, none⟩⟩
  · rintro none between range onDay t days ⟨name, wide, rangePlanned⟩ now without call call'
    -- Without a midnight the agreement is on all days as a whole, and queries for days keep it.
    have whole : AgreeOn Key.WholeDay filed db :=
      agree.mono fun key isWhole => ⟨isWhole, fun p member _ => none p member⟩
    obtain ⟨still, same⟩ := after_alike plain whole days t
    have asked (x : Database) (t : τ) : range.ask exchange x onDay t =
        (Plan.days name wide).carryOut exchange x onDay t := by
      rw [PriceQuery.ask_eq_carryOut, rangePlanned]
    have ran : call = (Plan.days name wide).carryOut exchange now.1 onDay now.2 := asked _ _
    have ran' : call' = (Plan.days name wide).carryOut exchange without.1 onDay now.2 := by
      rw [show now.2 = without.2 from same]
      exact asked _ _
    have alike := carryOut_alike plain still name wide onDay now.2
    rw [ran, ran']
    exact ⟨alike.result, alike.requests, alike.provider⟩

/-- A point of a day in some slot, that closes at a whole price. -/
private def closing (day : Date) (slot : Slot) (close : Nat) : Record :=
  ⟨.of "aapl" day slot, none, none, none, Decimal.of? close 0, .zero⟩

/-- A provider that has two bars of every day, and a point of every day as a whole. It counts
requests. -/
private def counting : Provider (StateM Nat) where
  chart
    | .onDay _ _ day => fun n => (.ok [closing day (.minute Slot.markerTime) 2,
        closing day (.minute ⟨9, 30, by omega, by omega⟩) 3], n + 1)
    | .wholeDay _ _ day => fun n => (.ok [closing day .wholeDay 4], n + 1)
    | _ => fun n => (.ok [], n + 1)
  listings := pure (.ok [])
  lastTrades _ := pure (.ok [])

/-- The Friday is stored as a whole. Its two bars are filed beside that, and five days are then answered
as without them. -/
theorem minutes_spare_days_two_bars :
    let exchange : Exchange Database (StateM Nat) := ⟨Database.store, counting⟩
    let db : Database := ⟨some (Table.empty.put (closing (.ofJune 25) .wholeDay 1))⟩
    let filed := ((PriceQuery.onDate "aapl" .byDate "20210625").ask exchange db (.ofJune 26) 0).1.store
    let call := (PriceQuery.overSpan "aapl" .fiveDays).ask exchange filed (.ofJune 26) 1
    let call' := (PriceQuery.overSpan "aapl" .fiveDays).ask exchange db (.ofJune 26) 1
    filed ≠ db ∧
      filed.find? (.of "aapl" (.ofJune 25) .wholeDay) = .ok (some (closing (.ofJune 25) .wholeDay 1)) ∧
      call.1.result = call'.1.result ∧ call.1.requests = call'.1.requests ∧ call.2 = 5 := by
  intro exchange db
  have planned : (PriceQuery.onDate "aapl" .byDate "20210625").plan (.ofJune 26) =
      .minutes "aapl" .byDate (.ofJune 25) := by
    have read : Date.ofCompact? "20210625" = some (.ofJune 25) := by decide
    rw [PriceQuery.plan, Plan.ofDate, read]
  have plain : exchange.store = Database.store := rfl
  have answer : exchange.provider.chart (.onDay "aapl" .byDate (.ofJune 25)) 0 =
      (.ok [closing (.ofJune 25) (.minute Slot.markerTime) 2,
        closing (.ofJune 25) (.minute ⟨9, 30, by omega, by omega⟩) 3], 1) := rfl
  have none : ∀ p ∈ [closing (.ofJune 25) (.minute Slot.markerTime) 2,
      closing (.ofJune 25) (.minute ⟨9, 30, by omega, by omega⟩) 3],
      p.key.slot.text ≠ Slot.wholeDayText := by
    decide +kernel
  obtain ⟨spared, ranges⟩ := minutes_spare_days plain db planned answer
  obtain ⟨result, requests, provider⟩ := ranges none [] (.overSpan "aapl" .fiveDays) (.ofJune 26) 1
    (by simp) ⟨_, _, rfl⟩
  have kept := (spared (.of "aapl" (.ofJune 25) .wholeDay) rfl fun p member _ => none p member).2
  refine ⟨?_, kept.trans ?_, result, requests, provider.trans ?_⟩ <;> decide +kernel

/-- A point that the provider dates to midnight is a bar of its minute, and a day that is asked for its
minutes may have it. It overwrites the Friday as a whole, and five days are answered with it. -/
theorem midnight_bar_overwrites_day :
    let point : ChartPoint :=
      ⟨"2021-06-25", some "00:00", none, none, none, Decimal.of? 2 0, none⟩
    let bar := closing (.ofJune 25) (.minute ⟨0, 0, by omega, by omega⟩) 2
    let exchange : Exchange Database (StateM Unit) :=
      ⟨Database.store, ⟨fun _ => pure (.ok [bar]), pure (.ok []), fun _ => pure (.ok [])⟩⟩
    let db : Database := ⟨some (Table.empty.put (closing (.ofJune 25) .wholeDay 1))⟩
    let filed := ((PriceQuery.onDate "aapl" .byDate "20210625").ask exchange db (.ofJune 26) ()).1.store
    let range : PriceQuery := .overSpan "aapl" .fiveDays
    point.record? "aapl" = some bar ∧
      db.find? (.of "aapl" (.ofJune 25) .wholeDay) = .ok (some (closing (.ofJune 25) .wholeDay 1)) ∧
      filed.find? (.of "aapl" (.ofJune 25) .wholeDay) = .ok (some (closing (.ofJune 25) .wholeDay 2)) ∧
      (range.ask exchange filed (.ofJune 26) ()).1.result ≠
        (range.ask exchange db (.ofJune 26) ()).1.result := by
  refine ⟨?_, ?_, ?_, ?_⟩ <;> decide +kernel

end Exchange

end PriceHistory
