import PriceHistory.Proofs.Calendar.Order
import PriceHistory.Proofs.Reconcile.Run

/-!
Queries for the days of a span, where nothing fails. A span without a stored day comes to a single
request; with one, each day that is not stored is asked for once, newest first, and the stored days
come before the fetched ones.
-/
namespace PriceHistory.Exchange

open PriceHistory.Calendar

variable {σ τ : Type} {live : σ → Prop}

/-! ### In any effect -/

section

variable {m : Type → Type} [Monad m] [LawfulMonad m] {exchange : Exchange σ m}
  {source : ChartRequest → m (List Record)}

/-- A query for days whose requests succeed, by whether one of them is stored. -/
theorem overDays_answered (answered : exchange.Answered source)
    (reliable : exchange.store.Reliable live) {s : σ} (alive : live s) (symbol : String) (span : Span)
    (anchor : Date) :
    let hits := (span.window anchor).filterMap (exchange.storedWhole? s symbol)
    let missing := (span.window anchor).filter fun day => (exchange.storedWhole? s symbol day).isNone
    (hits = [] → exchange.overDays s symbol span anchor = (fun points =>
      let records := points.map (·.filedByDay symbol)
      ⟨.ok records, (exchange.store.putAll records s).2, [.chart (.days symbol span)]⟩) <$>
        source (.days symbol span)) ∧
    (hits ≠ [] → exchange.overDays s symbol span anchor = (fun answers =>
      let records := answers.flatten.map (·.filedByDay symbol)
      ⟨.ok (hits ++ records), (exchange.store.putAll records s).2,
        missing.map fun day => .chart (.wholeDay symbol .oneMonth day)⟩) <$>
      missing.mapM fun day => source (.wholeDay symbol .oneMonth day)) := by
  intro hits missing
  have scanned : exchange.scanDays s symbol (span.window anchor) = .ok (hits, missing) :=
    scanDays_eq fun day _ => reliable.lookup_ok alive _
  constructor
  · intro none
    rw [none] at scanned
    rw [overDays_of_none scanned]
    exact fetchSpan_answered answered reliable alive symbol span
  · intro some
    rw [overDays_of_some some scanned, fetchDays_answered answered reliable alive, Functor.map_map]
    rfl

end

/-! ### With a provider that has a state -/

variable {exchange : Exchange σ (StateM τ)} {source : ChartRequest → StateM τ (List Record)}

/-- Does the answer for each day consist of one point of that day? -/
def OneForEach (source : ChartRequest → StateM τ (List Record)) (symbol : String) : Prop :=
  ∀ day t, ∃ point, (source (.wholeDay symbol .oneMonth day) t).1 = [point] ∧ point.key.date = day

private theorem dates_of_oneForEach {symbol : String} (single : OneForEach source symbol)
    (days : List Date) (t : τ) :
    ((days.mapM fun day => source (.wholeDay symbol .oneMonth day)) t).1.flatten.map (·.key.date) =
      days := by
  induction days generalizing t with
  | nil => rfl
  | cons day rest ih =>
    let fetch (day : Date) := source (.wholeDay symbol .oneMonth day)
    have step : (((day :: rest).mapM fetch) t).1 =
        (fetch day t).1 :: ((rest.mapM fetch) (fetch day t).2).1 := by
      rw [List.mapM_cons]
      rfl
    obtain ⟨point, answer, dated⟩ := single day t
    change List.map _ (((day :: rest).mapM fetch) t).1.flatten = _
    rw [step, List.flatten_cons, List.map_append, ih (fetch day t).2]
    change (source (.wholeDay symbol .oneMonth day) t).1.map _ ++ rest = _
    rw [answer, List.map_singleton, dated, List.singleton_append]

/-- The records found for some days in another form, where that form of a record is one of its day. -/
theorem map_hits {α : Type} {stored : Date → Option Record} {days : List Date} {form : Record → α}
    {ofDay : Date → α}
    (agree : ∀ day ∈ days, ∀ record, stored day = some record → form record = ofDay day) :
    (days.filterMap stored).map form = (days.filter fun day => (stored day).isSome).map ofDay := by
  induction days with
  | nil => rfl
  | cons day rest ih =>
    have later := ih fun other member => agree other (List.mem_cons_of_mem day member)
    cases found : stored day with
    | none => simp [found, later]
    | some record => simp [found, later, agree day List.mem_cons_self record found]

theorem dates_of_hits {s : σ} {symbol : String} {days : List Date}
    (dated : ∀ day ∈ days, ∀ record, exchange.storedWhole? s symbol day = some record →
      record.key.date = day) :
    (days.filterMap (exchange.storedWhole? s symbol)).map (·.key.date) =
      days.filter fun day => (exchange.storedWhole? s symbol day).isSome := by
  rw [map_hits dated, List.map_id']

/-- Each day is either a hit or missing. -/
theorem hits_append_missing_perm (stored : Date → Option Record) (days : List Date) :
    (days.filter (fun day => (stored day).isSome) ++
      days.filter fun day => (stored day).isNone).Perm days := by
  have parted := List.filter_append_perm (fun day => (stored day).isSome) days
  simpa only [Option.not_isSome] using parted

private theorem length_hits_add_missing {s : σ} {symbol : String} (days : List Date) :
    (days.filterMap (exchange.storedWhole? s symbol)).length +
      (days.filter fun day => (exchange.storedWhole? s symbol day).isNone).length = days.length := by
  rw [List.length_filterMap_eq_countP, List.countP_eq_length_filter, ← List.length_append]
  exact (hits_append_missing_perm _ days).length_eq

/-- A query for a span of more than one day, where requests succeed and the store does not fail. A day
counts as stored only where its record is there and can be read. The days are those after the floor of
the span, up to the anchor, newest first. Without a stored day there is a single request for the span;
else there is one for each day that is not stored, in the order of the days. Points are filed and
returned under their own dates, each for its day as a whole. -/
theorem overSpan_reconciles (answered : exchange.Answered source)
    (reliable : exchange.store.Reliable live) {s : σ} (alive : live s) (today : Date)
    (symbol : String) {span : Span} (several : span ≠ .oneDay) (t : τ) :
    let range := if span = .byDate then .oneMonth else span
    let window := range.window (anchor today)
    let hits := window.filterMap (exchange.storedWhole? s symbol)
    let missing := window.filter fun day => (exchange.storedWhole? s symbol day).isNone
    let filed (points : List Record) : List Record :=
      points.map fun point => { point with key := .of symbol point.key.date .wholeDay }
    let call := exchange.overSpan s today symbol span t
    ((∀ day, day ∈ window ↔ range.floor (anchor today) < day ∧ day ≤ anchor today) ∧
      window.Pairwise fun newer older => older < newer) ∧
    (hits = [] →
      let answer := source (.days symbol range) t
      call.1.requests = [.chart (.days symbol range)] ∧ call.2 = answer.2 ∧
        call.1.result = .ok (filed answer.1)) ∧
    (hits ≠ [] →
      let answers := (missing.mapM fun day => source (.wholeDay symbol .oneMonth day)) t
      call.1.requests = missing.map (fun day => .chart (.wholeDay symbol .oneMonth day)) ∧
        call.2 = answers.2 ∧
        call.1.result = .ok (hits ++ filed answers.1.flatten)) ∧
    (hits ≠ [] → OneForEach source symbol → ∃ records, call.1.result = .ok records ∧
      records.map (·.key.date) = hits.map (·.key.date) ++ missing ∧ records.length = window.length ∧
      ((∀ day ∈ window, ∀ record, exchange.storedWhole? s symbol day = some record →
        record.key.date = day) → (records.map (·.key.date)).Perm window)) := by
  intro range window hits missing filed call
  have reached : exchange.overSpan s today symbol span =
      exchange.overDays s symbol range (anchor today) :=
    exchange.overSpanAt_of_ne_oneDay .inTurn s today symbol several
  have ran : call = exchange.overDays s symbol range (anchor today) t := congrFun reached t
  obtain ⟨bulk, singly⟩ := overDays_answered answered reliable alive symbol range (anchor today)
  refine ⟨⟨fun day => Date.mem_daysBack, Date.daysBack_pairwise _ _⟩, ?_, ?_, ?_⟩
  · intro none
    rw [ran, bulk none]
    exact ⟨rfl, rfl, rfl⟩
  · intro some
    rw [ran, singly some]
    exact ⟨rfl, rfl, rfl⟩
  · intro some single
    let fetched := ((missing.mapM fun day => source (.wholeDay symbol .oneMonth day)) t).1.flatten
    -- Filing keeps the dates, and so the fetched points are dated the missing days.
    have fetchedDates : fetched.map (·.key.date) = missing := dates_of_oneForEach single missing t
    have dates : (hits ++ filed fetched).map (·.key.date) =
        hits.map (·.key.date) ++ missing := by
      rw [List.map_append, List.map_map]
      exact congrArg _ fetchedDates
    refine ⟨hits ++ filed fetched, ?_, dates, ?_, ?_⟩
    · rw [ran, singly some]
      rfl
    · rw [← List.length_map (·.key.date), dates, List.length_append, List.length_map]
      exact length_hits_add_missing window
    · intro dated
      rw [dates, dates_of_hits dated]
      exact hits_append_missing_perm _ window

/-- A record of a key alone. -/
private def keyAlone (key : Key) : Record :=
  ⟨key, none, none, none, none, .zero⟩

/-- A store that has the record of one day, and another day that cannot be read. It counts writes. -/
private def patchy (readable unreadable : Date) : Store Nat where
  has _ key := .ok (key.date = readable ∨ key.date = unreadable)
  find? _ key := .ok (if key.date = readable then some (keyAlone key) else none)
  put written _ := (.ok (), written + 1)

/-- A source that has one minute of every day, and nothing for a span. It counts requests. -/
private def oneMinute (request : ChartRequest) : StateM Nat (List Record) := fun asked =>
  match request with
  | .wholeDay symbol _ day => ([keyAlone (.of symbol day .marker)], asked + 1)
  | _ => ([], asked + 1)

private def patchyExchange (readable unreadable : Date) : Exchange Nat (StateM Nat) :=
  ⟨patchy readable unreadable, ⟨fun request => .ok <$> oneMinute request, pure (.ok []),
    fun _ => pure (.ok [])⟩⟩

/-- Of the five days before a Saturday one is stored and one cannot be read. -/
theorem overSpan_reconciles_patchy :
    let day := Date.ofJune
    let call := (patchyExchange (day 24) (day 22)).overSpan 0 (day 26) "aapl" .fiveDays 0
    call.1.requests =
        [day 25, day 23, day 22, day 21].map (fun d => .chart (.wholeDay "aapl" .oneMonth d)) ∧
      call.2 = 4 ∧ ∃ records, call.1.result = .ok records ∧
        records.map (·.key.date) = [day 24, day 25, day 23, day 22, day 21] := by
  intro day call
  have answered : (patchyExchange (day 24) (day 22)).Answered oneMinute := fun _ => rfl
  have reliable : (patchy (day 24) (day 22)).Reliable fun _ => True :=
    ⟨fun _ _ _ => ⟨_, rfl⟩, fun _ _ _ => ⟨_, rfl⟩, fun _ _ _ => ⟨rfl, trivial⟩⟩
  obtain ⟨_, _, singly, dated⟩ := overSpan_reconciles answered reliable (s := 0) trivial (day 26)
    "aapl" (show Span.fiveDays ≠ .oneDay by decide) 0
  have hits : ((Span.fiveDays.window (anchor (day 26))).filterMap
      ((patchyExchange (day 24) (day 22)).storedWhole? 0 "aapl")).map (·.key.date) = [day 24] := by
    decide +kernel
  have missing : ((Span.fiveDays.window (anchor (day 26))).filter fun d =>
      ((patchyExchange (day 24) (day 22)).storedWhole? 0 "aapl" d).isNone) =
        [day 25, day 23, day 22, day 21] := by
    decide +kernel
  have some : ((Span.fiveDays.window (anchor (day 26))).filterMap
      ((patchyExchange (day 24) (day 22)).storedWhole? 0 "aapl")) ≠ [] := by
    intro none
    rw [none] at hits
    cases hits
  obtain ⟨requests, asked, _⟩ := singly some
  obtain ⟨records, result, dates, _⟩ := dated some fun _ _ => ⟨_, rfl, rfl⟩
  refine ⟨?_, ?_, records, result, ?_⟩
  · exact requests.trans (congrArg _ missing)
  · exact asked.trans (congrArg (fun days =>
      ((days.mapM fun d => oneMinute (.wholeDay "aapl" .oneMonth d)) 0).2) missing)
  · exact dates.trans (congr (congrArg _ hits) missing)

end PriceHistory.Exchange
