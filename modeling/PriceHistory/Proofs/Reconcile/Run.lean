import PriceHistory.Proofs.Store.Reliable
import PriceHistory.Reconcile

/-!
How the parts of a query run, in any effect. A day or a span comes to one request whose points are
filed; the days that a scan misses are fetched in their order, and each is filed before the next.
-/
namespace PriceHistory

open PriceHistory.Calendar

/-- Goes on from a step whose run is known. -/
theorem run_bind {τ α β : Type} {step : StateM τ α} {t after : τ} {a : α} (ran : step t = (a, after))
    (next : α → StateM τ β) : (step >>= next) t = next a after := by
  change next (step t).1 (step t).2 = _
  rw [ran]

theorem run_map {τ α β : Type} {step : StateM τ α} {t after : τ} {a : α} (ran : step t = (a, after))
    (f : α → β) : (f <$> step) t = (f a, after) := by
  change (f (step t).1, (step t).2) = _
  rw [ran]

namespace Outcome

variable {σ : Type} {m : Type → Type} [Monad m]

/-- Goes on from an outcome that has a result, and joins the two. -/
def andThen (first : Outcome σ (List Record)) (next : σ → m (Outcome σ (List Record))) :
    m (Outcome σ (List Record)) :=
  match first.result with
  | .error _ => pure first
  | .ok records => (fun later => ⟨later.result.map (records ++ ·), later.store,
      first.requests ++ later.requests⟩) <$> next first.store

theorem andThen_of_ok {first : Outcome σ (List Record)} {records : List Record}
    (fine : first.result = .ok records) (next : σ → m (Outcome σ (List Record))) :
    first.andThen next = (fun later => ⟨later.result.map (records ++ ·), later.store,
      first.requests ++ later.requests⟩) <$> next first.store := by
  rw [andThen, fine]

theorem run_andThen_of_ok {τ : Type} {first : Outcome σ (List Record)} {records : List Record}
    (fine : first.result = .ok records) (next : σ → StateM τ (Outcome σ (List Record))) (t : τ) :
    first.andThen next t =
      let (later, t) := next first.store t
      (⟨later.result.map (records ++ ·), later.store, first.requests ++ later.requests⟩, t) := by
  rw [andThen_of_ok fine]
  rfl

end Outcome

@[simp] theorem Pace.ahead_inTurn (rest : List Date) : Pace.inTurn.ahead rest = 0 := rfl

namespace Exchange

variable {σ : Type} {m : Type → Type} {exchange : Exchange σ m}

/-! ### Scanning and filing -/

/-- The record that is stored for a day as a whole. -/
def storedWhole? (exchange : Exchange σ m) (s : σ) (symbol : String) (day : Date) : Option Record :=
  exchange.store.hit? s (.of symbol day .wholeDay)

/-- A scan of days whose store answers gives the records of those that are hits, and the others. -/
theorem scanDays_eq {s : σ} {symbol : String} {days : List Date}
    (answered : ∀ day ∈ days,
      ∃ answer, exchange.store.lookup s (.of symbol day .wholeDay) = .ok answer) :
    exchange.scanDays s symbol days =
      .ok (days.filterMap (exchange.storedWhole? s symbol),
        days.filter fun day => (exchange.storedWhole? s symbol day).isNone) := by
  induction days with
  | nil => rfl
  | cons day rest ih =>
    obtain ⟨answer, looked⟩ := answered day List.mem_cons_self
    have later := ih fun other member => answered other (List.mem_cons_of_mem day member)
    rw [scanDays, looked, later]
    cases answer with
    | hit record =>
      have hit : exchange.storedWhole? s symbol day = some record := by
        rw [storedWhole?, Store.hit?, looked]
      simp only [List.filterMap_cons, List.filter_cons, hit]
      rfl
    | absent | inconsistent =>
      have miss : exchange.storedWhole? s symbol day = none := by
        rw [storedWhole?, Store.hit?, looked]
      simp only [List.filterMap_cons, List.filter_cons, miss]
      rfl

/-- What becomes of the answer to a request: points are filed in the form given, and a failure is
passed on. -/
def received (exchange : Exchange σ m) (request : ChartRequest) (form : Record → Record) (s : σ) :
    Except Failure (List Record) → Outcome σ (List Record)
  | .error e => ⟨.error e, s, [.chart request]⟩
  | .ok points => exchange.file request (points.map form) s

@[simp] theorem requests_received (request : ChartRequest) (form : Record → Record) (s : σ)
    (answer : Except Failure (List Record)) :
    (exchange.received request form s answer).requests = [.chart request] := by
  cases answer <;> rfl

theorem file_of_taken {records : List Record} {s : σ}
    (taken : (exchange.store.putAll records s).1 = .ok ()) (request : ChartRequest) :
    exchange.file request records s =
      ⟨.ok records, (exchange.store.putAll records s).2, [.chart request]⟩ := by
  simp only [file, taken]
  rfl

theorem file_reliable {live : σ → Prop} (reliable : exchange.store.Reliable live) {s : σ}
    (alive : live s) (request : ChartRequest) (records : List Record) :
    exchange.file request records s =
      ⟨.ok records, (exchange.store.putAll records s).2, [.chart request]⟩ :=
  file_of_taken (reliable.putAll alive records).1 request

/-! ### The parts of a query -/

variable [Monad m]

/-- A day that is stored is answered without the provider. -/
theorem onDay_of_stored {s : σ} {symbol : String} {span : Span} {day : Date} {records : List Record}
    (stored : exchange.storedDay? s symbol day = .ok (some records)) :
    exchange.onDay s symbol span day = pure (.quiet (.ok records) s) := by
  rw [onDay, stored]

theorem onDay_of_failed {s : σ} {symbol : String} {span : Span} {day : Date} {e : Failure}
    (failed : exchange.storedDay? s symbol day = .error e) :
    exchange.onDay s symbol span day = pure (.quiet (.error e) s) := by
  rw [onDay, failed]

theorem fetchDays_nil (symbol : String) (s : σ) :
    exchange.fetchDays symbol [] s = pure (.quiet (.ok []) s) := by
  rw [fetchDays, fetchDaysAt]

theorem overDays_of_failed {s : σ} {symbol : String} {span : Span} {anchor : Date} {e : Failure}
    (failed : exchange.scanDays s symbol (span.window anchor) = .error e) :
    exchange.overDays s symbol span anchor = pure (.quiet (.error e) s) := by
  rw [overDays, overDaysAt, failed]

/-- Without a stored day a span is fetched as one, whatever the pace. -/
theorem overDaysAt_of_none (pace : Pace) {s : σ} {symbol : String} {span : Span} {anchor : Date}
    {missing : List Date} (scanned : exchange.scanDays s symbol (span.window anchor) = .ok ([], missing)) :
    exchange.overDaysAt pace s symbol span anchor = exchange.fetchSpan s symbol span := by
  rw [overDaysAt, scanned]

theorem overDays_of_none {s : σ} {symbol : String} {span : Span} {anchor : Date} {missing : List Date}
    (scanned : exchange.scanDays s symbol (span.window anchor) = .ok ([], missing)) :
    exchange.overDays s symbol span anchor = exchange.fetchSpan s symbol span :=
  overDaysAt_of_none .inTurn scanned

/-- A query for a span is one for its days, save where it is one day; a span that needs a date is a month
without one. -/
theorem overSpanAt_of_ne_oneDay (exchange : Exchange σ m) (pace : Pace) (s : σ) (today : Date)
    (symbol : String) {span : Span} (several : span ≠ .oneDay) :
    exchange.overSpanAt pace s today symbol span =
      exchange.overDaysAt pace s symbol (if span = .byDate then .oneMonth else span) (anchor today) := by
  cases span <;> first | rfl | exact absurd rfl several

variable [LawfulMonad m]

theorem onDay_of_missing {s : σ} {symbol : String} {span : Span} {day : Date}
    (missing : exchange.storedDay? s symbol day = .ok none) :
    exchange.onDay s symbol span day =
      exchange.received (.onDay symbol span day) (·.filedUnder symbol) s <$>
        exchange.provider.chart (.onDay symbol span day) := by
  rw [onDay, missing, map_eq_pure_bind]
  apply bind_congr
  intro answer
  cases answer <;> rfl

theorem fetchSpan_eq (s : σ) (symbol : String) (span : Span) :
    exchange.fetchSpan s symbol span =
      exchange.received (.days symbol span) (·.filedByDay symbol) s <$>
        exchange.provider.chart (.days symbol span) := by
  rw [fetchSpan, map_eq_pure_bind]
  apply bind_congr
  intro answer
  cases answer <;> rfl

/-- The first of some days comes to one request, and the others follow where it is filed. -/
theorem fetchDays_cons (symbol : String) (day : Date) (rest : List Date) (s : σ) :
    exchange.fetchDays symbol (day :: rest) s =
      exchange.provider.chart (.wholeDay symbol .oneMonth day) >>= fun answer =>
        (exchange.received (.wholeDay symbol .oneMonth day) (·.filedByDay symbol) s answer).andThen
          (exchange.fetchDays symbol rest) := by
  -- With one request after another none is under way behind a day.
  simp only [fetchDays, fetchDaysAt, nextAnswer, Pace.ahead_inTurn, askDays, List.take_zero,
    List.drop_nil, List.mapM_nil, List.map_nil, bind_assoc, pure_bind, List.append_nil]
  apply bind_congr
  intro answer
  cases answer with
  | error e => rfl
  | ok points =>
    change _ = (exchange.file (.wholeDay symbol .oneMonth day) _ s).andThen _
    dsimp only
    -- Both sides go on from the points filed in the same way.
    generalize exchange.file (.wholeDay symbol .oneMonth day) _ s = filed
    obtain ⟨result, contents, requests⟩ := filed
    cases result with
    | error e => rfl
    | ok records => exact (map_eq_pure_bind _ _).symm

/-- With stored days the missing ones are fetched, and the stored ones come first. -/
theorem overDaysAt_of_some (pace : Pace) {s : σ} {symbol : String} {span : Span} {anchor : Date}
    {stored : List Record} {missing : List Date} (some : stored ≠ [])
    (scanned : exchange.scanDays s symbol (span.window anchor) = .ok (stored, missing)) :
    exchange.overDaysAt pace s symbol span anchor =
      Outcome.map (stored ++ ·) <$> exchange.fetchDaysAt pace symbol missing [] s := by
  rw [overDaysAt, scanned, map_eq_pure_bind]
  cases stored with
  | nil => exact absurd rfl some
  | cons record stored => rfl

theorem overDays_of_some {s : σ} {symbol : String} {span : Span} {anchor : Date}
    {stored : List Record} {missing : List Date} (some : stored ≠ [])
    (scanned : exchange.scanDays s symbol (span.window anchor) = .ok (stored, missing)) :
    exchange.overDays s symbol span anchor =
      Outcome.map (stored ++ ·) <$> exchange.fetchDays symbol missing s :=
  overDaysAt_of_some .inTurn some scanned

/-- A day that is not stored comes to what the provider answers, and leaves the provider as the request
leaves it. -/
theorem run_onDay_of_missing {τ : Type} {exchange : Exchange σ (StateM τ)} {s : σ} {symbol : String}
    {span : Span} {day : Date} (missing : exchange.storedDay? s symbol day = .ok none)
    {before after : τ} {answer : Except Failure (List Record)}
    (answered : exchange.provider.chart (.onDay symbol span day) before = (answer, after)) :
    exchange.onDay s symbol span day before =
      (exchange.received (.onDay symbol span day) (·.filedUnder symbol) s answer, after) := by
  rw [onDay_of_missing missing]
  exact run_map answered _

/-! ### Requests that succeed -/

/-- Do all chart requests of the provider succeed, with the answers of a source? -/
def Answered (exchange : Exchange σ m) (source : ChartRequest → m (List Record)) : Prop :=
  ∀ request, exchange.provider.chart request = Except.ok <$> source request

variable {source : ChartRequest → m (List Record)} {live : σ → Prop}

theorem fetchSpan_answered (answered : exchange.Answered source)
    (reliable : exchange.store.Reliable live) {s : σ} (alive : live s) (symbol : String) (span : Span) :
    exchange.fetchSpan s symbol span = (fun points =>
      let records := points.map (·.filedByDay symbol)
      ⟨.ok records, (exchange.store.putAll records s).2, [.chart (.days symbol span)]⟩) <$>
        source (.days symbol span) := by
  rw [fetchSpan_eq, answered, Functor.map_map]
  congr 1
  funext points
  exact file_reliable reliable alive _ _

/-- Days whose requests succeed are fetched once each, in their order, and their points are joined
and filed in that order. -/
theorem fetchDays_answered (answered : exchange.Answered source)
    (reliable : exchange.store.Reliable live) {s : σ} (alive : live s) (symbol : String)
    (days : List Date) :
    exchange.fetchDays symbol days s = (fun answers =>
      let records := answers.flatten.map (·.filedByDay symbol)
      ⟨.ok records, (exchange.store.putAll records s).2,
        days.map fun day => .chart (.wholeDay symbol .oneMonth day)⟩) <$>
      days.mapM fun day => source (.wholeDay symbol .oneMonth day) := by
  induction days generalizing s with
  | nil => simp [fetchDays_nil, Outcome.quiet]
  | cons day rest ih =>
    rw [fetchDays_cons, answered, List.mapM_cons, bind_map_left, map_bind]
    apply bind_congr
    intro points
    obtain ⟨whole, still⟩ := reliable.putAll alive (points.map (·.filedByDay symbol))
    -- The first day is filed before the others are asked for, which makes no difference to them.
    rw [received, Outcome.andThen_of_ok (by rw [file_reliable reliable alive]),
      file_reliable reliable alive, ih still]
    simp only [map_eq_pure_bind, bind_assoc, pure_bind]
    apply bind_congr
    intro answers
    rw [List.flatten_cons, List.map_append, Store.putAll_append whole]
    rfl

end Exchange

end PriceHistory
