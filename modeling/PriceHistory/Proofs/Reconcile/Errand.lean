import PriceHistory.Proofs.Query.Plan
import PriceHistory.Proofs.Reconcile.Run
import PriceHistory.Proofs.Store.Scan

/-!
The two halves of a query. It first reads the store, which settles what is served and which requests
are left to make; then it makes these one after another, and files the points of each before the next.
The first half depends on the keys that it looks at alone, and fails only where a look fails.
-/
namespace PriceHistory

open PriceHistory.Calendar

/-- The form in which the points of a request are filed: minutes in their slots, and days as a
whole. -/
def ChartRequest.form : ChartRequest → Record → Record
  | .onDay symbol _ _ => Record.filedUnder symbol
  | .days symbol _ | .latest symbol | .wholeDay symbol _ _ => Record.filedByDay symbol

variable {σ : Type} {m : Type → Type}

theorem Outcome.map_nil_append (outcome : Outcome σ (List Record)) :
    outcome.map ([] ++ ·) = outcome := by
  obtain ⟨result, contents, requests⟩ := outcome
  cases result <;> rfl

/-! ### Reading -/

namespace Exchange

variable {σ' : Type} {m' : Type → Type} {exchange : Exchange σ m} {exchange' : Exchange σ' m'}
  {s : σ} {s' : σ'} {symbol : String} {day : Date} {e : Failure}

theorem scanMinutes_congr {times : List TimeOfDay}
    (same : ∀ time ∈ times, exchange.store.lookup s (.of symbol day (.minute time)) =
      exchange'.store.lookup s' (.of symbol day (.minute time))) :
    exchange.scanMinutes s symbol day times = exchange'.scanMinutes s' symbol day times := by
  induction times with
  | nil => rfl
  | cons time rest ih =>
    rw [scanMinutes, scanMinutes, same time List.mem_cons_self,
      ih fun later member => same later (List.mem_cons_of_mem time member)]

theorem scanDays_congr {days : List Date}
    (same : ∀ day ∈ days, exchange.store.lookup s (.of symbol day .wholeDay) =
      exchange'.store.lookup s' (.of symbol day .wholeDay)) :
    exchange.scanDays s symbol days = exchange'.scanDays s' symbol days := by
  induction days with
  | nil => rfl
  | cons day rest ih =>
    rw [scanDays, scanDays, same day List.mem_cons_self,
      ih fun later member => same later (List.mem_cons_of_mem day member)]

/-- A scan of minutes ends where a key is there and cannot be read, so no look behind it fails. -/
theorem scanMinutes_eq_error_iff {times : List TimeOfDay} :
    exchange.scanMinutes s symbol day times = .error e ↔
      exchange.store.ScanFails s (· ≠ .inconsistent) e
        (times.map fun time => .of symbol day (.minute time)) := by
  -- At each minute the look fails, ends the scan, or leaves it to the minutes after it.
  induction times with
  | nil => simp [scanMinutes, Store.not_scanFails_nil]
  | cons time rest ih =>
    rw [List.map_cons, Store.scanFails_cons, ← ih, scanMinutes]
    cases exchange.store.lookup s (.of symbol day (.minute time)) with
    | error cause => simp [bind, Except.bind]
    | ok found =>
      cases found <;> cases exchange.scanMinutes s symbol day rest <;>
        simp [bind, Except.bind, pure, Except.pure]

theorem scanDays_eq_error_iff {days : List Date} :
    exchange.scanDays s symbol days = .error e ↔
      exchange.store.ScanFails s (fun _ => True) e
        (days.map fun day => .of symbol day .wholeDay) := by
  induction days with
  | nil => simp [scanDays, Store.not_scanFails_nil]
  | cons day rest ih =>
    rw [List.map_cons, Store.scanFails_cons, ← ih, scanDays]
    cases exchange.store.lookup s (.of symbol day .wholeDay) with
    | error cause => simp [bind, Except.bind]
    | ok found =>
      cases found <;> cases exchange.scanDays s symbol rest <;>
        simp [bind, Except.bind, pure, Except.pure]

end Exchange

namespace Plan

/-- Reads the store for a plan. What is served comes back, with the requests that are left to make. -/
def errand (exchange : Exchange σ m) (s : σ) (today : Date) :
    Plan → Except Failure (List Record × List ChartRequest)
  | nothing => .ok ([], [])
  | minutes symbol span day => (exchange.storedDay? s symbol day).map fun
    | some records => (records, [])
    | none => ([], [.onDay symbol span day])
  | days symbol span => (exchange.scanDays s symbol (span.window (Exchange.anchor today))).map fun
    | ([], _) => ([], [.days symbol span])
    | (stored, missing) => (stored, missing.map (.wholeDay symbol .oneMonth))

/-- The keys that a plan looks at. -/
def Looks (today : Date) (key : Key) : Plan → Prop
  | nothing => False
  | minutes symbol _ day => key = .of symbol day .marker ∨
    ∃ time ∈ TimeOfDay.sessionMinutes, key = .of symbol day (.minute time)
  | days symbol span => ∃ day ∈ span.window (Exchange.anchor today), key = .of symbol day .wholeDay

/-- Does a read of a plan fail so? A marked day is scanned up to a minute that is there and cannot be
read, and days are scanned to their end. -/
def ReadFails (exchange : Exchange σ m) (s : σ) (today : Date) (e : Failure) : Plan → Prop
  | nothing => False
  | minutes symbol _ day => exchange.store.has s (.of symbol day .marker) = .error e ∨
    exchange.store.has s (.of symbol day .marker) = .ok true ∧
      exchange.store.ScanFails s (· ≠ .inconsistent) e
        (TimeOfDay.sessionMinutes.map fun time => .of symbol day (.minute time))
  | days symbol span => exchange.store.ScanFails s (fun _ => True) e
    ((span.window (Exchange.anchor today)).map fun day => .of symbol day .wholeDay)

/-- What a plan reads depends on the keys that it looks at alone. -/
theorem errand_congr {σ' : Type} {m' : Type → Type} {exchange : Exchange σ m}
    {exchange' : Exchange σ' m'} {s : σ} {s' : σ'} {today : Date} {plan : Plan}
    (same : ∀ key, plan.Looks today key →
      exchange.store.has s key = exchange'.store.has s' key ∧
        exchange.store.find? s key = exchange'.store.find? s' key) :
    plan.errand exchange s today = plan.errand exchange' s' today := by
  have lookups (key : Key) (looked : plan.Looks today key) :
      exchange.store.lookup s key = exchange'.store.lookup s' key := by
    rw [Store.lookup, Store.lookup, (same key looked).1, (same key looked).2]
  cases plan with
  | nothing => rfl
  | minutes symbol span day =>
    have marker := (same (.of symbol day .marker) (.inl rfl)).1
    have scan : exchange.scanMinutes s symbol day TimeOfDay.sessionMinutes =
        exchange'.scanMinutes s' symbol day TimeOfDay.sessionMinutes :=
      Exchange.scanMinutes_congr fun time member => lookups _ (.inr ⟨time, member, rfl⟩)
    rw [errand, errand, Exchange.storedDay?, Exchange.storedDay?, marker, scan]
  | days symbol span =>
    have scan : exchange.scanDays s symbol (span.window (Exchange.anchor today)) =
        exchange'.scanDays s' symbol (span.window (Exchange.anchor today)) :=
      Exchange.scanDays_congr fun day member => lookups _ ⟨day, member, rfl⟩
    rw [errand, errand, scan]

/-! ### The days of a span -/

section

variable {exchange : Exchange σ m} {s : σ} {today : Date} {symbol : String} {span : Span}

/-- With a stored day the stored ones are served, and the others are left to fetch one by one. -/
theorem errand_days_of_some (answered : ∀ day ∈ span.window (Exchange.anchor today),
      ∃ answer, exchange.store.lookup s (.of symbol day .wholeDay) = .ok answer)
    (some : (span.window (Exchange.anchor today)).filterMap (exchange.storedWhole? s symbol) ≠ []) :
    (days symbol span).errand exchange s today =
      .ok ((span.window (Exchange.anchor today)).filterMap (exchange.storedWhole? s symbol),
        ((span.window (Exchange.anchor today)).filter fun day =>
          (exchange.storedWhole? s symbol day).isNone).map (.wholeDay symbol .oneMonth)) := by
  rw [errand, Exchange.scanDays_eq answered]
  generalize (span.window (Exchange.anchor today)).filterMap (exchange.storedWhole? s symbol) = stored
    at some ⊢
  cases stored with
  | nil => exact absurd rfl some
  | cons record stored => rfl

end

/-- The requests of a plan for days file their points by the day. -/
theorem form_of_days {exchange : Exchange σ m} {s : σ} {today : Date} {symbol : String} {span : Span}
    {served : List Record} {requests : List ChartRequest}
    (read : (days symbol span).errand exchange s today = .ok (served, requests)) :
    ∀ request ∈ requests, request.form = Record.filedByDay symbol := by
  rw [errand] at read
  cases scanned : exchange.scanDays s symbol (span.window (Exchange.anchor today)) with
  | error e =>
    rw [scanned] at read
    cases read
  | ok found =>
    rw [scanned] at read
    obtain ⟨stored, missing⟩ := found
    cases stored <;> cases read <;> simp [ChartRequest.form]

theorem errand_eq_error_iff {exchange : Exchange σ m} {s : σ} {today : Date} {plan : Plan}
    {e : Failure} : plan.errand exchange s today = .error e ↔ plan.ReadFails exchange s today e := by
  -- A result keeps its failure when it is put into another form.
  have kept {α β : Type} (f : α → β) (x : Except Failure α) : x.map f = .error e ↔ x = .error e := by
    cases x <;> simp [Except.map]
  cases plan with
  | nothing => simp [errand, ReadFails]
  | minutes symbol span day =>
    rw [errand, kept, Exchange.storedDay?, ReadFails, ← Exchange.scanMinutes_eq_error_iff]
    cases exchange.store.has s (.of symbol day .marker) with
    | error cause => simp [bind, Except.bind]
    | ok marked => cases marked <;> simp [bind, Except.bind, pure, Except.pure]
  | days symbol span => rw [errand, kept, ReadFails, ← Exchange.scanDays_eq_error_iff]

end Plan

/-! ### Fetching -/

namespace Exchange

variable [Monad m]

/-- Makes requests one after another, and files the points of each before the next is made. -/
def fetchEach (exchange : Exchange σ m) : List ChartRequest → σ → m (Outcome σ (List Record))
  | [], s => pure (.quiet (.ok []) s)
  | request :: rest, s => do
    let answer ← exchange.provider.chart request
    (exchange.received request request.form s answer).andThen (fetchEach exchange rest)

theorem fetchEach_eq_of_chart {store : Store σ} {provider provider' : Provider m}
    (charts : provider.chart = provider'.chart) (requests : List ChartRequest) (s : σ) :
    fetchEach ⟨store, provider⟩ requests s = fetchEach ⟨store, provider'⟩ requests s := by
  induction requests generalizing s with
  | nil => rfl
  | cons request rest ih =>
    rw [fetchEach, fetchEach, charts, funext ih]
    apply bind_congr
    intro answer
    cases answer <;> rfl

variable [LawfulMonad m] {exchange : Exchange σ m}

theorem fetchEach_singleton (request : ChartRequest) (s : σ) :
    exchange.fetchEach [request] s =
      exchange.received request request.form s <$> exchange.provider.chart request := by
  rw [fetchEach, map_eq_pure_bind]
  apply bind_congr
  intro answer
  generalize exchange.received request request.form s answer = filed
  obtain ⟨result, contents, requests⟩ := filed
  cases result with
  | error e => rfl
  | ok records => simp [Outcome.andThen, fetchEach, Outcome.quiet, Except.map]

theorem fetchSpan_eq_fetchEach (s : σ) (symbol : String) (span : Span) :
    exchange.fetchSpan s symbol span = exchange.fetchEach [.days symbol span] s := by
  rw [fetchSpan_eq, fetchEach_singleton]
  rfl

theorem run_fetchEach_cons {τ : Type} {exchange : Exchange σ (StateM τ)} {request : ChartRequest}
    {t later : τ} {answer : Except Failure (List Record)}
    (answered : exchange.provider.chart request t = (answer, later)) (rest : List ChartRequest)
    (s : σ) :
    exchange.fetchEach (request :: rest) s t =
      (exchange.received request request.form s answer).andThen (exchange.fetchEach rest) later := by
  rw [fetchEach]
  exact run_bind answered _

theorem fetchDays_eq_fetchEach (symbol : String) (days : List Date) (s : σ) :
    exchange.fetchDays symbol days s =
      exchange.fetchEach (days.map (.wholeDay symbol .oneMonth)) s := by
  induction days generalizing s with
  | nil => rfl
  | cons day rest ih =>
    rw [fetchDays_cons, List.map_cons, fetchEach, funext ih]
    rfl

end Exchange

namespace Plan

variable [Monad m] {exchange : Exchange σ m} {s : σ} {today : Date} {plan : Plan}

theorem carryOut_of_error {e : Failure} (failed : plan.errand exchange s today = .error e) :
    plan.carryOut exchange s today = pure (.quiet (.error e) s) := by
  cases plan with
  | nothing => cases failed
  | minutes symbol span day =>
    rw [errand] at failed
    cases stored : exchange.storedDay? s symbol day with
    | error cause =>
      rw [stored] at failed
      cases failed
      exact Exchange.onDay_of_failed stored
    | ok found =>
      rw [stored] at failed
      cases failed
  | days symbol span =>
    rw [errand] at failed
    cases scanned : exchange.scanDays s symbol (span.window (Exchange.anchor today)) with
    | error cause =>
      rw [scanned] at failed
      cases failed
      exact Exchange.overDays_of_failed scanned
    | ok found =>
      rw [scanned] at failed
      cases failed

/-- A query for a span is one for its days, save where it is one day; a span that needs a date is a month
without one. -/
theorem carryOut_days_of_ne_oneDay (exchange : Exchange σ m) (s : σ) (today : Date) (symbol : String)
    {span : Span} (several : span ≠ .oneDay) :
    (days symbol (if span = .byDate then .oneMonth else span)).carryOut exchange s today =
      exchange.overSpan s today symbol span :=
  (exchange.overSpanAt_of_ne_oneDay .inTurn s today symbol several).symm

variable [LawfulMonad m]

/-- A plan whose reads succeed comes to what is served and the requests that are left. -/
theorem carryOut_of_ok {served : List Record} {requests : List ChartRequest}
    (read : plan.errand exchange s today = .ok (served, requests)) :
    plan.carryOut exchange s today =
      Outcome.map (served ++ ·) <$> exchange.fetchEach requests s := by
  -- Where nothing is left to ask for, all is served, and a single request is served nothing.
  have quiet (records : List Record) : pure (.quiet (.ok records) s) =
      Outcome.map (records ++ ·) <$> exchange.fetchEach [] s := by
    simp [Exchange.fetchEach, Outcome.quiet, Outcome.map, Except.map]
  have single (request : ChartRequest) :
      exchange.received request request.form s <$> exchange.provider.chart request =
        Outcome.map ([] ++ ·) <$> exchange.fetchEach [request] s := by
    rw [Exchange.fetchEach_singleton, Functor.map_map]
    simp only [Outcome.map_nil_append]
  cases plan with
  | nothing =>
    cases read
    exact quiet []
  | minutes symbol span day =>
    rw [errand] at read
    cases stored : exchange.storedDay? s symbol day with
    | error cause =>
      rw [stored] at read
      cases read
    | ok found =>
      rw [stored] at read
      cases found with
      | some records =>
        cases read
        exact (Exchange.onDay_of_stored stored).trans (quiet served)
      | none =>
        cases read
        exact (Exchange.onDay_of_missing stored).trans (single _)
  | days symbol span =>
    rw [errand] at read
    cases scanned : exchange.scanDays s symbol (span.window (Exchange.anchor today)) with
    | error cause =>
      rw [scanned] at read
      cases read
    | ok found =>
      rw [scanned] at read
      obtain ⟨stored, missing⟩ := found
      cases stored with
      | nil =>
        cases read
        rw [carryOut, Exchange.overDays_of_none scanned, Exchange.fetchSpan_eq]
        exact single _
      | cons record stored =>
        cases read
        rw [carryOut, Exchange.overDays_of_some (List.cons_ne_nil _ _) scanned,
          Exchange.fetchDays_eq_fetchEach]

/-- Only the charts of a provider make a difference to a plan. -/
theorem carryOut_eq_of_chart {store : Store σ} {provider provider' : Provider m}
    (charts : provider.chart = provider'.chart) (plan : Plan) (s : σ) (today : Date) :
    plan.carryOut ⟨store, provider⟩ s today = plan.carryOut ⟨store, provider'⟩ s today := by
  have reads : plan.errand ⟨store, provider⟩ s today = plan.errand ⟨store, provider'⟩ s today :=
    errand_congr fun _ _ => ⟨rfl, rfl⟩
  cases read : plan.errand ⟨store, provider⟩ s today with
  | error e => rw [carryOut_of_error read, carryOut_of_error (reads ▸ read)]
  | ok found =>
    obtain ⟨served, requests⟩ := found
    rw [carryOut_of_ok read, carryOut_of_ok (reads ▸ read), Exchange.fetchEach_eq_of_chart charts]

end Plan

end PriceHistory
