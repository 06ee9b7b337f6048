import PriceHistory.Outcome
import PriceHistory.Store

/-!
Answering a query from what is stored and what the provider has. A query first asks the store, then
fetches only what is missing, files it, and returns both together. Two slots make it enough to look
for one point: the marker says that a day is stored minute by minute, and the whole day holds one
record for each day of a span. Requests for single days may overlap; their answers are filed in the order of
the days.
-/
namespace PriceHistory

open PriceHistory.Calendar

/-- A store together with the provider that fills it. -/
structure Exchange (σ : Type) (m : Type → Type) where
  store : Store σ
  provider : Provider m

/-- How requests for days overlap. No more than `width` are under way at once; `ahead` tells how many of
the days behind one have been asked for by the time its answer is taken. It is none of them where the
provider answers at once. -/
structure Pace where
  width : Nat
  ahead : List Date → Nat
  ahead_lt : ∀ rest, ahead rest < width
  -- A day that has been asked for stays so.
  ahead_cons : ∀ day rest, ahead (day :: rest) ≤ ahead rest + 1

/-- One request after another. -/
def Pace.inTurn : Pace :=
  ⟨1, fun _ => 0, fun _ => Nat.zero_lt_one, fun _ _ => Nat.zero_le 1⟩

namespace Exchange

variable {σ : Type} {m : Type → Type} [Monad m] (exchange : Exchange σ m)

/-- Reads the stored minutes of a day. A minute that was never stored is left out; `none` says that
a minute is there and cannot be read back. -/
def scanMinutes (s : σ) (symbol : String) (day : Date) :
    List TimeOfDay → Except Failure (Option (List Record))
  | [] => .ok (some [])
  | time :: rest => do
    match ← exchange.store.lookup s (.of symbol day (.minute time)) with
    | .hit record => return (← scanMinutes s symbol day rest).map (record :: ·)
    | .absent => scanMinutes s symbol day rest
    | .inconsistent => return none

/-- The minutes of a day that is marked complete and reads back without a contradiction. -/
def storedDay? (s : σ) (symbol : String) (day : Date) : Except Failure (Option (List Record)) := do
  if ← exchange.store.has s (.of symbol day .marker) then
    exchange.scanMinutes s symbol day TimeOfDay.sessionMinutes
  else return none

/-- Files records, and returns them with the outcome of a request that brought them. -/
def file (request : ChartRequest) (records : List Record) (s : σ) : Outcome σ (List Record) :=
  let (done, s) := exchange.store.putAll records s
  ⟨done.map fun _ => records, s, [.chart request]⟩

/-- The minutes of one day: from the store where the day is complete, else from the provider. -/
def onDay (s : σ) (symbol : String) (span : Span) (day : Date) : m (Outcome σ (List Record)) :=
  match exchange.storedDay? s symbol day with
  | .error e => return .quiet (.error e) s
  | .ok (some records) => return .quiet (.ok records) s
  | .ok none => do
    let request := ChartRequest.onDay symbol span day
    match ← exchange.provider.chart request with
    | .error e => return ⟨.error e, s, [.chart request]⟩
    | .ok points => return exchange.file request (points.map (·.filedUnder symbol)) s

/-- The minutes of a date given in the compact form; there are none for any other text. -/
def onDate (s : σ) (symbol : String) (span : Span) (date : String) : m (Outcome σ (List Record)) :=
  match Date.ofCompact? date with
  | some day => exchange.onDay s symbol span day
  | none => return .quiet (.ok []) s

/-- Looks up the records of days as a whole: those that are stored, and the days that miss one. -/
def scanDays (s : σ) (symbol : String) : List Date → Except Failure (List Record × List Date)
  | [] => .ok ([], [])
  | day :: rest => do
    match ← exchange.store.lookup s (.of symbol day .wholeDay) with
    | .hit record =>
      let (stored, missing) ← scanDays s symbol rest
      return (record :: stored, missing)
    | .absent | .inconsistent =>
      let (stored, missing) ← scanDays s symbol rest
      return (stored, day :: missing)

/-- Asks for days as a whole, in their order. -/
def askDays (symbol : String) (days : List Date) : m (List (Except Failure (List Record))) :=
  days.mapM fun day => exchange.provider.chart (.wholeDay symbol .oneMonth day)

/-- The answer for a day and the answers behind it. A day that is not under way is asked for. -/
def nextAnswer (symbol : String) (day : Date) :
    List (Except Failure (List Record)) →
      m (Except Failure (List Record) × List (Except Failure (List Record)))
  | answer :: flight => return (answer, flight)
  | [] => return (← exchange.provider.chart (.wholeDay symbol .oneMonth day), [])

/-- Fetches days, and files them in their order up to the first that fails. `flight` has the answers for
the first of the days, as far as they have been asked for; those behind a day that fails are dropped. -/
def fetchDaysAt (pace : Pace) (symbol : String) :
    List Date → List (Except Failure (List Record)) → σ → m (Outcome σ (List Record))
  | [], _, s => return .quiet (.ok []) s
  | day :: rest, flight, s => do
    let request := ChartRequest.wholeDay symbol .oneMonth day
    let (answer, flight) ← exchange.nextAnswer symbol day flight
    -- The next days are asked for before this one is known to be good.
    let soon := rest.take (pace.ahead rest)
    let flight := flight ++ (← exchange.askDays symbol (soon.drop flight.length))
    let besides := soon.map fun day => .chart (.wholeDay symbol .oneMonth day)
    match answer with
    | .error e => return ⟨.error e, s, .chart request :: besides⟩
    | .ok points =>
      let filed := exchange.file request (points.map (·.filedByDay symbol)) s
      match filed.result with
      | .error _ => return { filed with requests := filed.requests ++ besides }
      | .ok records =>
        let later ← fetchDaysAt pace symbol rest flight filed.store
        return ⟨later.result.map (records ++ ·), later.store, filed.requests ++ later.requests⟩

/-- Fetches and files days one by one, up to the first that fails. -/
def fetchDays (symbol : String) (days : List Date) (s : σ) : m (Outcome σ (List Record)) :=
  exchange.fetchDaysAt .inTurn symbol days [] s

/-- Fetches and files a whole span. -/
def fetchSpan (s : σ) (symbol : String) (span : Span) : m (Outcome σ (List Record)) := do
  let request := ChartRequest.days symbol span
  match ← exchange.provider.chart request with
  | .error e => return ⟨.error e, s, [.chart request]⟩
  | .ok points => return exchange.file request (points.map (·.filedByDay symbol)) s

/-- The days of a span that ends at `anchor`. Without a single stored day the span is fetched as
one, else each missing day is fetched by itself. Stored days come first, newest first. -/
def overDaysAt (pace : Pace) (s : σ) (symbol : String) (span : Span) (anchor : Date) :
    m (Outcome σ (List Record)) :=
  match exchange.scanDays s symbol (span.window anchor) with
  | .error e => return .quiet (.error e) s
  | .ok ([], _) => exchange.fetchSpan s symbol span
  | .ok (stored, missing) => do
    let fetched ← exchange.fetchDaysAt pace symbol missing [] s
    return { fetched with result := fetched.result.map (stored ++ ·) }

/-- The days of a span, with one request after another. -/
def overDays (s : σ) (symbol : String) (span : Span) (anchor : Date) : m (Outcome σ (List Record)) :=
  exchange.overDaysAt .inTurn s symbol span anchor

/-- The last day that the provider may know: the one before today. -/
def anchor (today : Date) : Date :=
  today.pred?.getD today

/-- A span that ends yesterday. One day is a query for its minutes, and a span that needs a date is
a month without one. -/
def overSpanAt (pace : Pace) (s : σ) (today : Date) (symbol : String) (span : Span) :
    m (Outcome σ (List Record)) :=
  match span with
  | .oneDay => exchange.onDay s symbol .oneDay (anchor today)
  | .byDate => exchange.overDaysAt pace s symbol .oneMonth (anchor today)
  | span => exchange.overDaysAt pace s symbol span (anchor today)

/-- A span that ends yesterday, with one request after another. -/
def overSpan (s : σ) (today : Date) (symbol : String) (span : Span) : m (Outcome σ (List Record)) :=
  exchange.overSpanAt .inTurn s today symbol span

/-- A query that names no span. -/
def standard (s : σ) (today : Date) (symbol : String) : m (Outcome σ (List Record)) :=
  exchange.overSpan s today symbol .standard

end Exchange

end PriceHistory
