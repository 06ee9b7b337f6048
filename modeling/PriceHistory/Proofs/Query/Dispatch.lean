import PriceHistory.Database.Basic
import PriceHistory.Proofs.Calendar.DateText
import PriceHistory.Proofs.Calendar.Order
import PriceHistory.Proofs.Reconcile.Errand
import PriceHistory.Proofs.Text.Trim

/-!
Historical queries by their texts. A text counts by what it names: a blank one names nothing, a known
token names its span, and any other token is passed on as it is, for a span that is read like the standard
one. So queries whose texts name the same are the same query, whatever is stored, whatever fails and
whatever the provider answers.
-/
namespace PriceHistory

open PriceHistory.Calendar PriceHistory.Database

theorem nonBlank?_of_blank {text : String} (blank : Text.Blank text) : nonBlank? (some text) = none := by
  simp [nonBlank?, blank]

theorem nonBlank?_of_not_blank {text : String} (given : ¬Text.Blank text) :
    nonBlank? (some text) = some text := by
  simp [nonBlank?, given]

/-- A token that no span has is kept. -/
theorem Span.ofToken_of_unknown {t : String} (unknown : ∀ span ∈ known, span.token ≠ t) :
    ofToken t = .other t := by
  have none : (known.find? fun span => span.token == t) = none :=
    List.find?_eq_none.mpr fun span member => by simpa using unknown span member
  rw [ofToken, none]
  rfl

theorem Calendar.Date.not_blank_compact (d : Date) : ¬Text.Blank d.compact := by
  obtain ⟨c, cs, starts, digit⟩ := Text.exists_padded_eq_cons 2 d.day
  intro blank
  have isBlank := blank c (by simp [compact, starts])
  rw [Text.isBlank_of_isDigit digit] at isBlank
  cases isBlank

namespace Exchange

variable {σ : Type} {m : Type → Type} {exchange : Exchange σ m} {s : σ} {today : Date} {symbol : String}

/-! ### Whether a scan of days finds one -/

/-- A scan of days either has an answer for each of them, or fails with the failure of one. -/
theorem scanDays_answered_or_failed (exchange : Exchange σ m) (s : σ) (symbol : String)
    (days : List Date) :
    (∀ day ∈ days, ∃ answer, exchange.store.lookup s (.of symbol day .wholeDay) = .ok answer) ∨
      ∃ day ∈ days, ∃ e, exchange.store.lookup s (.of symbol day .wholeDay) = .error e ∧
        exchange.scanDays s symbol days = .error e := by
  induction days with
  | nil => exact .inl fun _ member => by cases member
  | cons day rest ih =>
    cases looked : exchange.store.lookup s (.of symbol day .wholeDay) with
    | error e => exact .inr ⟨day, List.mem_cons_self, e, looked, by rw [scanDays, looked]; rfl⟩
    | ok answer =>
      rcases ih with answered | ⟨other, member, e, failed, scanned⟩
      · exact .inl (List.forall_mem_cons.mpr ⟨⟨answer, looked⟩, answered⟩)
      · refine .inr ⟨other, List.mem_cons_of_mem day member, e, failed, ?_⟩
        rw [scanDays, looked, scanned]
        cases answer <;> rfl

theorem scanDays_ne_none_of_hit {days : List Date} {day : Date} {record : Record} (member : day ∈ days)
    (hit : exchange.store.lookup s (.of symbol day .wholeDay) = .ok (.hit record)) (missing : List Date) :
    exchange.scanDays s symbol days ≠ .ok ([], missing) := by
  intro scanned
  rcases exchange.scanDays_answered_or_failed s symbol days with answered | ⟨_, _, e, _, failed⟩
  · rw [scanDays_eq answered] at scanned
    have none := List.filterMap_eq_nil_iff.mp (congrArg Prod.fst (Except.ok.inj scanned)) day member
    rw [storedWhole?, Store.hit?, hit] at none
    cases none
  · cases failed.symm.trans scanned

theorem scanDays_of_no_hit {days : List Date}
    (misses : ∀ day ∈ days, exchange.store.lookup s (.of symbol day .wholeDay) = .ok .absent ∨
      exchange.store.lookup s (.of symbol day .wholeDay) = .ok .inconsistent) :
    ∃ missing, exchange.scanDays s symbol days = .ok ([], missing) := by
  have answered : ∀ day ∈ days,
      ∃ answer, exchange.store.lookup s (.of symbol day .wholeDay) = .ok answer :=
    fun day member => (misses day member).elim (⟨_, ·⟩) (⟨_, ·⟩)
  have none : days.filterMap (exchange.storedWhole? s symbol) = [] := by
    rw [List.filterMap_eq_nil_iff]
    intro day member
    rw [storedWhole?, Store.hit?]
    rcases misses day member with looked | looked <;> rw [looked]
  rw [scanDays_eq answered, none]
  exact ⟨_, rfl⟩

variable [Monad m]

/-! ### What a query comes to -/

/-- A historical query by what its texts name. -/
theorem historicalPrices_eq (exchange : Exchange σ m) (s : σ) (today : Date) (symbol : String)
    (range date : Option String) : exchange.historicalPrices s today symbol range date =
      if Text.Blank symbol then pure (.quiet (.ok []) s)
      else
        let own := Text.upper (Text.trim symbol)
        let span? := (nonBlank? range).map Span.ofToken
        match nonBlank? date with
        | some date => exchange.onDate s own (span?.getD .byDate) date
        | none => exchange.overSpan s today own (span?.getD .standard) := by
  simp only [historicalPrices, Text.upper_eq_empty_iff, Text.trim_eq_empty_iff]
  split
  · rfl
  · cases nonBlank? date <;> cases nonBlank? range <;> rfl

theorem historicalPrices_of_blank (blank : Text.Blank symbol) (range date : Option String) :
    exchange.historicalPrices s today symbol range date = pure (.quiet (.ok []) s) := by
  rw [historicalPrices_eq, if_pos blank]

/-- A text that is no date in the compact form asks for nothing. -/
theorem historicalPrices_of_no_date {date : String} (given : ¬Text.Blank date)
    (no : Date.ofCompact? date = none) (range : Option String) :
    exchange.historicalPrices s today symbol range (some date) = pure (.quiet (.ok []) s) := by
  rw [historicalPrices_eq, nonBlank?_of_not_blank given]
  split
  · rfl
  · simp only [onDate, no]

/-- A query for a token that is not known is one for the days of a span of its own. -/
theorem historicalPrices_of_other {t : String} (given : ¬Text.Blank t)
    (unknown : ∀ span ∈ Span.known, span.token ≠ t) (named : ¬Text.Blank symbol) :
    exchange.historicalPrices s today symbol (some t) none =
      (Plan.days (Text.upper (Text.trim symbol)) (.other t)).carryOut exchange s today := by
  rw [historicalPrices_eq, if_neg named, nonBlank?_of_not_blank given, Option.map_some,
    Span.ofToken_of_unknown unknown]
  rfl

theorem historicalPrices_of_oneMonth (named : ¬Text.Blank symbol) :
    exchange.historicalPrices s today symbol (some Span.oneMonth.token) none =
      (Plan.days (Text.upper (Text.trim symbol)) .oneMonth).carryOut exchange s today := by
  rw [historicalPrices_eq, if_neg named]
  rfl

/-! ### Spans that read the same days -/

/-- Of two spans with the same days, a query that finds one of the days or that fails on reading goes
alike: the span itself is named to the provider only where no day is stored. -/
theorem carryOut_days_congr {span span' : Span} {symbol : String}
    (same : span.window (anchor today) = span'.window (anchor today))
    (found : ∀ missing, exchange.scanDays s symbol (span.window (anchor today)) ≠ .ok ([], missing)) :
    (Plan.days symbol span).carryOut exchange s today =
      (Plan.days symbol span').carryOut exchange s today := by
  rw [Plan.carryOut, Plan.carryOut, overDays, overDays, overDaysAt, overDaysAt, ← same]
  cases scanned : exchange.scanDays s symbol (span.window (anchor today)) with
  | error e => rfl
  | ok read =>
    obtain ⟨stored, missing⟩ := read
    cases stored with
    | nil => exact absurd scanned (found missing)
    | cons record stored => rfl

variable [LawfulMonad m]

/-- Historical queries that are the same: result, requests, contents and effects, over any store, with any
provider. A blank range or date is none. No range, the token of a month and that of a date are one, where
no date is given; one day is the day before today, given as a date; a date alone has the range of a date.
A token that is not known reads the days of a month. With one of these stored it goes like the month; with
none it is fetched by its own token; and where a read fails, both fail so, and nothing is asked for. There is
nothing for a blank symbol, nor for a text that is not the compact form of a date. -/
theorem historicalPrices_dispatch (exchange : Exchange σ m) (s : σ) (today : Date) (symbol : String) :
    let call := exchange.historicalPrices s today symbol
    let own := Text.upper (Text.trim symbol)
    let window := Span.oneMonth.window (anchor today)
    let look (day : Date) := exchange.store.lookup s (.of own day .wholeDay)
    (∀ text, Text.Blank text → (∀ date, call (some text) date = call none date) ∧
      ∀ range, call range (some text) = call range none) ∧
    (call none none = call (some "1m") none ∧ call (some "date") none = call (some "1m") none) ∧
    (∀ yesterday, today.pred? = some yesterday → 0 ≤ yesterday.year ∧ yesterday.year ≤ 9999 →
      call (some "1d") none = call (some "1d") (some yesterday.compact)) ∧
    (∀ date, call none (some date) = call (some "date") (some date)) ∧
    (∀ t, ¬Text.Blank t → (∀ span ∈ Span.known, span.token ≠ t) → ¬Text.Blank symbol →
      (Span.ofToken t = .other t ∧ (Span.other t).window (anchor today) = window) ∧
      ((∃ day ∈ window, ∃ record, look day = .ok (.hit record)) →
        call (some t) none = call (some "1m") none) ∧
      ((∀ day ∈ window, look day = .ok .absent ∨ look day = .ok .inconsistent) →
        call (some t) none = exchange.received (.days own (.other t)) (·.filedByDay own) s <$>
          exchange.provider.chart (.days own (.other t))) ∧
      ((∃ day ∈ window, ∃ e, look day = .error e) → ∃ day ∈ window, ∃ e, look day = .error e ∧
        call (some t) none = pure (.quiet (.error e) s) ∧
        call (some "1m") none = pure (.quiet (.error e) s))) ∧
    (Text.Blank symbol → ∀ range date, call range date = pure (.quiet (.ok []) s)) ∧
    ∀ range date, ¬Text.Blank date →
      (∀ d : Date, 0 ≤ d.year ∧ d.year ≤ 9999 → date ≠ d.compact) →
      call range (some date) = pure (.quiet (.ok []) s) := by
  intro call own window look
  -- A token that is not known reaches as far back as the standard span.
  have same (t : String) : (Span.other t).window (anchor today) = window := rfl
  have oneMonth (named : ¬Text.Blank symbol) :
      call (some "1m") none = (Plan.days own .oneMonth).carryOut exchange s today :=
    historicalPrices_of_oneMonth named
  have other {t : String} (given : ¬Text.Blank t) (unknown : ∀ span ∈ Span.known, span.token ≠ t)
      (named : ¬Text.Blank symbol) :
      call (some t) none = (Plan.days own (.other t)).carryOut exchange s today :=
    historicalPrices_of_other given unknown named
  refine ⟨?blank, ?standard, ?yesterday, ?dated, ?unknown, historicalPrices_of_blank, ?never⟩
  case blank =>
    intro text blank
    simp only [call, historicalPrices_eq, nonBlank?_of_blank blank]
    exact ⟨fun _ => rfl, fun _ => rfl⟩
  case standard =>
    simp only [call, historicalPrices_eq]
    exact ⟨rfl, rfl⟩
  case yesterday =>
    intro yesterday before written
    simp only [call, historicalPrices_eq, nonBlank?_of_not_blank yesterday.not_blank_compact]
    split
    · rfl
    · change exchange.onDay s own .oneDay (anchor today) = exchange.onDate s own .oneDay yesterday.compact
      rw [onDate, Date.ofCompact?_compact written, anchor, before]
      rfl
  case dated =>
    intro date
    simp only [call, historicalPrices_eq]
    cases nonBlank? (some date) <;> rfl
  case unknown =>
    intro t given unknown named
    refine ⟨⟨Span.ofToken_of_unknown unknown, same t⟩, ?_, ?_, ?_⟩
    · rintro ⟨day, member, record, hit⟩
      rw [other given unknown named, oneMonth named]
      exact carryOut_days_congr (same t) (scanDays_ne_none_of_hit member hit)
    · intro misses
      obtain ⟨missing, scanned⟩ := scanDays_of_no_hit misses
      rw [← same t] at scanned
      rw [other given unknown named, Plan.carryOut, overDays_of_none scanned, fetchSpan_eq]
    · rintro ⟨day, member, e, failed⟩
      rcases exchange.scanDays_answered_or_failed s own window with answered | failing
      · obtain ⟨answer, looked⟩ := answered day member
        cases failed.symm.trans looked
      · obtain ⟨first, among, cause, looked, scanned⟩ := failing
        have ended (span : Span) (reach : span.window (anchor today) = window) :
            (Plan.days own span).carryOut exchange s today = pure (.quiet (.error cause) s) :=
          overDays_of_failed (reach ▸ scanned)
        exact ⟨first, among, cause, looked, (other given unknown named).trans (ended _ (same t)),
          (oneMonth named).trans (ended _ rfl)⟩
  case never =>
    intro range date given no
    refine historicalPrices_of_no_date given (Option.eq_none_iff_forall_ne_some.mpr ?_) range
    intro d read
    obtain ⟨written, plain⟩ := Date.ofCompact?_eq_some_iff.mp read
    exact no d plain written

/-- A provider with nothing to show. It counts requests. -/
private def showingNothing : Provider (StateM Nat) where
  chart _ asked := (.ok [], asked + 1)
  listings := pure (.ok [])
  lastTrades _ := pure (.ok [])

/-- A record of a Friday as a whole. -/
private def wholeFriday : Record :=
  ⟨.of "aapl" (.ofJune 25) .wholeDay, none, none, none, none, .zero⟩

/-- Queries of an empty database, and of one that has a day of the month. -/
theorem historicalPrices_dispatch_weekend :
    let exchange : Exchange Database (StateM Nat) := ⟨Database.store, showingNothing⟩
    let call := exchange.historicalPrices .empty (.ofJune 26) " aapl "
    let stocked := exchange.historicalPrices ⟨some (Table.empty.put wholeFriday)⟩ (.ofJune 26) " aapl "
    call (some " ") (some "") = call none none ∧
      call none none = call (some "1m") none ∧ call (some "date") none = call (some "1m") none ∧
      call (some "1d") none = call (some "1d") (some "20210625") ∧
      call none (some "20210625") = call (some "date") (some "20210625") ∧
      (call (some "ytd") none 0).1.requests = [.chart (.days "AAPL" (.other "ytd"))] ∧
      stocked (some "ytd") none = stocked (some "1m") none ∧ (stocked (some "ytd") none 0).2 = 30 ∧
      exchange.historicalPrices .empty (.ofJune 26) " " (some "1y") none = pure (.quiet (.ok []) .empty) ∧
      call none (some "2021-06-25") = pure (.quiet (.ok []) .empty) := by
  intro exchange call stocked
  obtain ⟨blank, ⟨standard, dateless⟩, yesterday, dated, other, -, never⟩ :=
    exchange.historicalPrices_dispatch .empty (.ofJune 26) " aapl "
  obtain ⟨-, -, -, -, asMonth, -, -⟩ :=
    exchange.historicalPrices_dispatch ⟨some (Table.empty.put wholeFriday)⟩ (.ofJune 26) " aapl "
  obtain ⟨-, -, -, -, -, nobody, -⟩ := exchange.historicalPrices_dispatch .empty (.ofJune 26) " "
  have before : (Date.ofJune 26).pred? = some (.ofJune 25) := by decide
  have unknown : ∀ span ∈ Span.known, span.token ≠ "ytd" := by decide
  have unset := (other "ytd" (by decide) unknown (by decide)).2.2.1 (by decide +kernel)
  refine ⟨?_, standard, dateless, yesterday _ before (by decide), dated _, ?_, ?_, ?_,
    nobody (by decide) _ _, never _ _ (by decide) ?_⟩
  · exact ((blank " " (by decide)).1 _).trans ((blank "" (by decide)).2 _)
  · rw [show call (some "ytd") none = _ from unset]
    rfl
  · exact (asMonth "ytd" (by decide) unknown (by decide)).2.1
      ⟨wholeFriday.key.date, by decide +kernel, wholeFriday, by decide +kernel⟩
  · decide +kernel
  · intro d plain written
    have read := Date.ofCompact?_eq_some_iff.mpr ⟨written, plain⟩
    rw [show Date.ofCompact? "2021-06-25" = none by decide] at read
    cases read

/-- Without a price table no day of the month is stored, yet a token that is not known is not asked for. -/
theorem historicalPrices_other_unasked :
    let exchange : Exchange Database (StateM Nat) := ⟨Database.store, showingNothing⟩
    let dropped : Database := ⟨none⟩
    let call := exchange.historicalPrices dropped (.ofJune 26) "aapl" (some "ytd") none 0
    ¬Text.Blank "ytd" ∧ (∀ span ∈ Span.known, span.token ≠ "ytd") ∧
      (∀ day ∈ Span.oneMonth.window (anchor (.ofJune 26)), ∀ record : Record,
        exchange.store.lookup dropped (.of "AAPL" day .wholeDay) ≠ .ok (.hit record)) ∧
      call.1.result = .error (.database (.existence .missing)) ∧ call.1.requests = [] ∧ call.2 = 0 := by
  refine ⟨by decide, by decide, ?_, by decide +kernel, by decide +kernel, by decide +kernel⟩
  intro day _ record hit
  cases hit

end Exchange

end PriceHistory
