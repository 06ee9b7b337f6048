import PriceHistory.Proofs.Calendar.Order
import PriceHistory.Proofs.Database.FiniteMap
import PriceHistory.Proofs.Reconcile.Heard
import PriceHistory.Proofs.Reconcile.Sequence

/-!
Where the minutes of a database come from that starts empty. After any calls of the cache, the table has
the points of all answers written into it in their order, and only the answers to requests for the
minutes of a day are filed in a minute. So each row of a minute is the last point of these answers, and
no other call makes one or changes one.
-/
namespace PriceHistory

open PriceHistory.Calendar PriceHistory.Database

variable {τ : Type}

/-! ### Calls -/

theorem Plan.eq_of_ofDate_eq_minutes {symbol other date : String} {span wide : Span} {day : Date}
    (planned : ofDate symbol span date = minutes other wide day) : other = symbol := by
  unfold ofDate at planned
  split at planned
  · cases planned
    rfl
  · cases planned

theorem Plan.eq_of_ofSpan_eq_minutes {today day : Date} {symbol other : String} {span wide : Span}
    (planned : ofSpan today symbol span = minutes other wide day) : span = .oneDay ∧ other = symbol := by
  cases span <;> cases planned
  exact ⟨rfl, rfl⟩

/-- Only a plan for minutes asks for the minutes of a day, and it asks for its own. -/
theorem Plan.eq_minutes_of_mem {σ : Type} {m : Type → Type} {exchange : Exchange σ m} {s : σ}
    {today : Date} {plan : Plan} {served : List Record} {requests : List ChartRequest}
    (read : plan.errand exchange s today = .ok (served, requests)) {symbol : String} {span : Span}
    {day : Date} (member : .onDay symbol span day ∈ requests) : plan = .minutes symbol span day := by
  cases plan with
  | nothing =>
    cases read
    cases member
  | minutes own wide asked =>
    rw [errand] at read
    cases stored : exchange.storedDay? s own asked with
    | error e =>
      rw [stored] at read
      cases read
    | ok found =>
      rw [stored] at read
      cases found with
      | some records =>
        cases read
        cases member
      | none =>
        cases read
        cases List.mem_singleton.mp member
        rfl
  | days own wide =>
    rw [errand] at read
    cases scanned : exchange.scanDays s own (wide.window (Exchange.anchor today)) with
    | error e =>
      rw [scanned] at read
      cases read
    | ok found =>
      rw [scanned] at read
      obtain ⟨stored, missing⟩ := found
      cases stored <;> cases read <;> simp at member

namespace PriceQuery

/-- Is a query one for the minutes of a day: does it give a date, or ask for a span of one day? -/
def AsksMinutes : PriceQuery → Prop
  | historicalPrices _ range date =>
    (nonBlank? date).isSome ∨ nonBlank? range = some Span.oneDay.token
  | pricesOnDate .. | onDate .. => True
  | pricesOver _ span | overSpan _ span => span = .oneDay
  | prices _ | standard _ => False

theorem of_plan_eq_minutes {query : PriceQuery} {today day : Date} {symbol : String} {span : Span}
    (planned : query.plan today = .minutes symbol span day) :
    query.AsksMinutes ∧ query.symbol = .of symbol := by
  cases query with
  | historicalPrices named range date =>
    simp only [plan] at planned
    split at planned
    · cases planned
    · -- A date goes before a span, and only the span of one day is one for minutes.
      cases given : nonBlank? date with
      | some date =>
        rw [given] at planned
        rw [Plan.eq_of_ofDate_eq_minutes planned]
        exact ⟨.inl (by simp [given]), (Symbol.of_upper _).symm⟩
      | none =>
        cases reach : nonBlank? range with
        | some token =>
          rw [given, reach] at planned
          obtain ⟨oneDay, rfl⟩ := Plan.eq_of_ofSpan_eq_minutes planned
          refine ⟨.inr ?_, (Symbol.of_upper _).symm⟩
          rw [reach, ← oneDay, Span.token_ofToken]
        | none =>
          rw [given, reach] at planned
          cases (Plan.eq_of_ofSpan_eq_minutes planned).1
  | pricesOnDate named wide date =>
    rw [Plan.eq_of_ofDate_eq_minutes planned]
    exact ⟨trivial, (Symbol.of_upper _).symm⟩
  | pricesOver named wide =>
    obtain ⟨oneDay, rfl⟩ := Plan.eq_of_ofSpan_eq_minutes planned
    exact ⟨oneDay, (Symbol.of_upper _).symm⟩
  | onDate named wide date =>
    rw [Plan.eq_of_ofDate_eq_minutes planned]
    exact ⟨trivial, rfl⟩
  | overSpan named wide =>
    obtain ⟨oneDay, rfl⟩ := Plan.eq_of_ofSpan_eq_minutes planned
    exact ⟨oneDay, rfl⟩
  | prices named | standard named => cases planned

end PriceQuery

/-- A call of the cache: a query for prices, a question that nothing stored bears on, or the number of
points of a symbol. -/
inductive CacheCall where
  | prices (query : PriceQuery)
  | listings
  | lastTrades (symbols : List String)
  | count (symbol : String)

namespace CacheCall

/-- Is a call a query for the minutes of a day? -/
def AsksMinutes : CacheCall → Prop
  | prices query => query.AsksMinutes
  | listings | lastTrades _ | count _ => False

/-- What a call leaves of the database and of the provider when it is made on a day. Counting points
leaves both as they are. -/
def leave (exchange : Exchange Database (StateM τ)) (now : Database × τ) (call : Date × CacheCall) :
    Database × τ :=
  match call.2 with
  | prices query => PriceQuery.leave exchange now (call.1, query)
  | listings =>
    let (outcome, t) := exchange.listings now.1 now.2
    (outcome.store, t)
  | lastTrades symbols =>
    let (outcome, t) := exchange.lastTrades now.1 symbols now.2
    (outcome.store, t)
  | count _ => now

/-- What calls leave that are made one after another, each on its day. -/
def after (exchange : Exchange Database (StateM τ)) (now : Database × τ)
    (calls : List (Date × CacheCall)) : Database × τ :=
  calls.foldl (leave exchange) now

end CacheCall

/-! ### Answers for minutes -/

/-- The points of an answer to a request for the minutes of a day, as they are filed. -/
def Heard.minutes : Heard → List Record
  | ⟨.onDay symbol _ _, .ok points⟩ => points.map (·.filedUnder symbol)
  | _ => []

theorem Heard.minutes_eq_nil {h : Heard} (other : ∀ symbol span day, h.request ≠ .onDay symbol span day) :
    h.minutes = [] := by
  obtain ⟨request, answer⟩ := h
  cases request with
  | onDay symbol span day => exact absurd rfl (other symbol span day)
  | days symbol span | latest symbol | wholeDay symbol span day => rfl

/-- Whatever its points say, the answer to any other request is filed for days as a whole. -/
theorem Heard.filter_filed (h : Heard) {p : Record → Bool}
    (minutes : ∀ r, p r = true → r.key.slot.text ≠ Slot.wholeDayText) :
    h.filed.filter p = h.minutes.filter p := by
  have byDay (symbol : String) (points : List Record) :
      (points.map (·.filedByDay symbol)).filter p = [] := by
    rw [List.filter_eq_nil_iff]
    intro r member
    obtain ⟨point, _, rfl⟩ := List.mem_map.mp member
    exact fun held => minutes _ held rfl
  obtain ⟨request, answer⟩ := h
  cases answer with
  | error e => cases request <;> rfl
  | ok points =>
    cases request with
    | onDay symbol span day => rfl
    | days symbol span => exact byDay symbol points
    | latest symbol => exact byDay symbol points
    | wholeDay symbol span day => exact byDay symbol points

theorem filter_filed_eq_minutes (heard : List Heard) {p : Record → Bool}
    (minutes : ∀ r, p r = true → r.key.slot.text ≠ Slot.wholeDayText) :
    (heard.flatMap Heard.filed).filter p = (heard.flatMap Heard.minutes).filter p := by
  rw [List.filter_flatMap, List.filter_flatMap]
  exact List.flatMap_congr fun h _ => h.filter_filed minutes

namespace Database

/-- The database that the points of some answers have filled. -/
def filledBy (heard : List Heard) : Database :=
  ⟨some (Table.empty.putEach (heard.flatMap Heard.filed))⟩

/-- Its rows of minutes are those of the last points answered for them. -/
theorem mem_rows_filledBy {heard : List Heard} {row : Row}
    (minute : row.key.minute ≠ .text Slot.wholeDayText) :
    row ∈ (Table.empty.putEach (heard.flatMap Heard.filed)).rows ↔
      ∃ r, (heard.flatMap Heard.minutes).findRev? (fun q => q.key.SamePoint r.key) = some r ∧
        row = .of r := by
  rw [Table.mem_rows_writes]
  simp only [List.findRev?_eq_find?_reverse, ← List.getLast?_filter]
  apply exists_congr
  intro r
  apply and_congr_left
  rintro rfl
  -- A point of the same minute has the text of a minute too.
  rw [filter_filed_eq_minutes]
  intro q same whole
  apply minute
  rw [← whole, (of_decide_eq_true same).2.2]
  rfl

/-- It marks the days that it has an answer with a point at 10:50 for. -/
theorem marked_filledBy {heard : List Heard} {symbol : String} {day : Date} :
    (Table.empty.putEach (heard.flatMap Heard.filed)).has (.of symbol day .marker) = true ↔
      ∃ r ∈ heard.flatMap Heard.minutes, r.key.SamePoint (.of symbol day .marker) := by
  have filled : (Table.empty.putEach (heard.flatMap Heard.filed)).Filled := Table.Filled.empty.putEach _
  rw [filled.has_eq, Table.held_writes, Option.isSome_map, List.findRev?_eq_find?_reverse,
    ← List.getLast?_filter, filter_filed_eq_minutes, List.getLast?_filter, List.find?_isSome]
  · simp only [List.mem_reverse, decide_eq_true_eq]
  · intro r same whole
    have marker : r.key.slot.text = Slot.markerText := (of_decide_eq_true same).2.2
    rw [marker] at whole
    exact absurd whole (by decide)

end Database

/-! ### Runs of calls -/

namespace CacheCall

variable {exchange : Exchange Database (StateM τ)}

/-- A call writes what it hears, and hears of the minutes of a day only where it asks for them. -/
theorem leave_filledBy (plain : exchange.store = Database.store) (heard : List Heard) (source : τ)
    (call : Date × CacheCall) :
    ∃ news later, (∀ h ∈ news, ∀ symbol span day, h.request = .onDay symbol span day →
        ∃ query, call.2 = .prices query ∧ query.AsksMinutes ∧ query.symbol = .of symbol) ∧
      leave exchange (filledBy heard, source) call = (filledBy (heard ++ news), later) ∧
      leave exchange.recorded (filledBy heard, source, heard) call =
        (filledBy (heard ++ news), later, heard ++ news) := by
  obtain ⟨today, call⟩ := call
  cases call with
  | prices query =>
    obtain ⟨news, later, asked, left, noted⟩ := Exchange.store_of_recorded plain (query.plan today)
      (Table.empty.putEach (heard.flatMap Heard.filed)) today source
    have joined : filledBy (heard ++ news) =
        ⟨some ((Table.empty.putEach (heard.flatMap Heard.filed)).putEach (news.flatMap Heard.filed))⟩ := by
      rw [filledBy, List.flatMap_append, Table.putEach_append]
    refine ⟨news, later, ?_, ?_, ?_⟩
    · intro h member symbol span day request
      obtain ⟨served, requests, read, among, _⟩ := asked h member
      rw [request] at among
      exact ⟨query, rfl, PriceQuery.of_plan_eq_minutes (Plan.eq_minutes_of_mem read among)⟩
    · change PriceQuery.leave exchange (filledBy heard, source) (today, query) = _
      rw [joined, filledBy, PriceQuery.leave_eq_carryOut]
      exact left
    · change PriceQuery.leave exchange.recorded (filledBy heard, source, heard) (today, query) = _
      rw [joined, filledBy, PriceQuery.leave_eq_carryOut]
      exact noted heard
  | listings =>
    refine ⟨[], (exchange.provider.listings source).2, by simp, ?_, ?_⟩ <;> rw [List.append_nil] <;> rfl
  | lastTrades symbols =>
    cases asked : Exchange.askedSymbols symbols with
    | nil =>
      refine ⟨[], source, by simp, ?_, ?_⟩ <;>
        simp only [leave, Exchange.lastTrades, asked, List.append_nil] <;> rfl
    | cons first others =>
      refine ⟨[], (exchange.provider.lastTrades (first :: others) source).2, by simp, ?_, ?_⟩ <;>
        simp only [leave, Exchange.lastTrades, asked, List.append_nil] <;> rfl
  | count symbol =>
    refine ⟨[], source, by simp, ?_, ?_⟩ <;> rw [List.append_nil] <;> rfl

/-- What calls leave is what they have heard, and they hear of the minutes of a day only where one of
them asks for these. -/
theorem after_filledBy (plain : exchange.store = Database.store) (calls : List (Date × CacheCall))
    (source : τ) :
    ∃ heard later, (∀ h ∈ heard, ∀ symbol span day, h.request = .onDay symbol span day →
        ∃ call ∈ calls, ∃ query, call.2 = .prices query ∧ query.AsksMinutes ∧
          query.symbol = .of symbol) ∧
      after exchange (Database.empty, source) calls = (filledBy heard, later) ∧
      after exchange.recorded (Database.empty, source, []) calls = (filledBy heard, later, heard) := by
  -- From the last call backwards: the calls before it leave what it starts from.
  induction calls using List.reverseRecOn with
  | nil => exact ⟨[], source, by simp, rfl, rfl⟩
  | append_singleton calls last ih =>
    obtain ⟨heard, between, asked, left, noted⟩ := ih
    obtain ⟨news, later, askedLast, leftLast, notedLast⟩ := leave_filledBy plain heard between last
    refine ⟨heard ++ news, later, ?_, ?_, ?_⟩
    · intro h member symbol span day request
      rcases List.mem_append.mp member with old | new
      · obtain ⟨call, among, made⟩ := asked h old symbol span day request
        exact ⟨call, List.mem_append_left _ among, made⟩
      · exact ⟨last, by simp, askedLast h new symbol span day request⟩
    · rw [after, List.foldl_append]
      exact (congrArg (leave exchange · last) left).trans leftLast
    · rw [after, List.foldl_append]
      exact (congrArg (leave exchange.recorded · last) noted).trans notedLast

/-- What any calls have left of a database that was empty. A row of a minute is there exactly if it is
the row of the last point of its minute that was answered to a request for the minutes of a day. Each
such request was made by a call that asks for them, for its own symbol. Any other call then leaves the
rows of minutes as they are, and so only these answers mark a day. -/
theorem minutes_have_provenance (plain : exchange.store = Database.store)
    (calls : List (Date × CacheCall)) (source : τ) :
    ∃ (t : Table) (later : τ) (heard : List Heard),
      after exchange (Database.empty, source) calls = (⟨some t⟩, later) ∧
      after exchange.recorded (Database.empty, source, []) calls = (⟨some t⟩, later, heard) ∧
      (∀ row : Row, row.key.minute ≠ .text Slot.wholeDayText → (row ∈ t.rows ↔
        ∃ r, (heard.flatMap Heard.minutes).findRev? (fun q => q.key.SamePoint r.key) = some r ∧
          row = .of r)) ∧
      (∀ r ∈ heard.flatMap Heard.minutes, ∃ call ∈ calls, ∃ query asked span day points p,
        call.2 = .prices query ∧ query.AsksMinutes ∧ query.symbol = r.key.symbol ∧
        ⟨.onDay asked span day, .ok points⟩ ∈ heard ∧ p ∈ points ∧ r = p.filedUnder asked) ∧
      (∀ call : Date × CacheCall, ¬call.2.AsksMinutes → ∃ t' later',
        leave exchange (⟨some t⟩, later) call = (⟨some t'⟩, later') ∧
        ∀ row : Row, row.key.minute ≠ .text Slot.wholeDayText → (row ∈ t'.rows ↔ row ∈ t.rows)) ∧
      ∀ symbol day, t.has (.of symbol day .marker) = true ↔
        ∃ r ∈ heard.flatMap Heard.minutes, r.key.SamePoint (.of symbol day .marker) := by
  obtain ⟨heard, later, asked, left, noted⟩ := after_filledBy plain calls source
  refine ⟨_, later, heard, left, noted, fun row minute => mem_rows_filledBy minute, ?_, ?_,
    fun symbol day => marked_filledBy⟩
  · intro r member
    obtain ⟨⟨request, answer⟩, among, own⟩ := List.mem_flatMap.mp member
    -- Other requests and failures have no points of minutes.
    cases request with
    | days symbol span | latest symbol | wholeDay symbol span day => cases own
    | onDay symbol span day =>
      cases answer with
      | error e => cases own
      | ok points =>
        obtain ⟨p, inside, rfl⟩ := List.mem_map.mp own
        obtain ⟨call, made, query, prices, minutes, named⟩ := asked _ among symbol span day rfl
        exact ⟨call, made, query, symbol, span, day, points, p, prices, minutes, named, among, inside, rfl⟩
  · intro call other
    obtain ⟨news, later', askedNews, leftNews, _⟩ := leave_filledBy plain heard later call
    refine ⟨_, later', leftNews, fun row minute => ?_⟩
    have none : news.flatMap Heard.minutes = [] := by
      rw [List.flatMap_eq_nil_iff]
      intro h member
      apply Heard.minutes_eq_nil
      intro symbol span day request
      obtain ⟨query, prices, minutes, _⟩ := askedNews h member symbol span day request
      rw [prices] at other
      exact other minutes
    rw [mem_rows_filledBy minute, mem_rows_filledBy minute, List.flatMap_append, none, List.append_nil]

/-- A minute that closes at a whole price. -/
private def tenFifty (day close : Nat) : Record :=
  ⟨.of "aapl" (.ofJune day) (.minute Slot.markerTime), none, none, none, Decimal.of? close 0, .zero⟩

/-- A provider whose points are all dated to 10:50, and close at the number of the request. It fails
for listings. -/
private def alwaysTenFifty : Provider (StateM Nat) where
  chart
    | .days _ _ => fun n => (.ok [tenFifty 24 n, tenFifty 25 n], n + 1)
    | _ => fun n => (.ok [tenFifty 24 n], n + 1)
  listings := pure (.error (.provider (.network "timed out")))
  lastTrades _ := pure (.ok [])

/-- Five days are fetched with points at 10:50, then the Thursday for its minutes, then listings and a
month. Only the request for minutes has marked a day, with its own point. -/
theorem minutes_have_provenance_one_day :
    let exchange : Exchange Database (StateM Nat) := ⟨Database.store, alwaysTenFifty⟩
    let calls : List (Date × CacheCall) := [
      (.ofJune 26, .prices (.pricesOver "AAPL" .fiveDays)),
      (.ofJune 26, .prices (.pricesOnDate "aapl" .byDate "20210624")),
      (.ofJune 26, .listings), (.ofJune 26, .prices (.prices "Aapl"))]
    ∃ t later, after exchange (Database.empty, 0) calls = (⟨some t⟩, later) ∧
      Row.of (tenFifty 24 1) ∈ t.rows ∧ t.has (.of "aapl" (.ofJune 24) .marker) = true ∧
      ¬t.has (.of "aapl" (.ofJune 25) .marker) = true := by
  intro exchange calls
  obtain ⟨t, later, heard, left, noted, rows, _, _, marked⟩ :=
    minutes_have_provenance (show exchange.store = Database.store from rfl) calls 0
  have answers : heard = (after exchange.recorded (Database.empty, 0, []) calls).2.2 :=
    (congrArg (·.2.2) noted).symm
  subst answers
  refine ⟨t, later, left, (rows _ (by decide)).mpr ⟨tenFifty 24 1, ?_, rfl⟩, (marked _ _).mpr ?_,
    mt (marked _ _).mp ?_⟩ <;> decide +kernel

end CacheCall

end PriceHistory
