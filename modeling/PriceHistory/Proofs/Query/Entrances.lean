import PriceHistory.Proofs.Calendar.Order
import PriceHistory.Proofs.Database.FiniteMap
import PriceHistory.Proofs.Query.Dispatch
import PriceHistory.Proofs.Reconcile.Isolation
import PriceHistory.Proofs.Reconcile.Sequence

/-!
The four ways to put a query to the cache. Only the historical queries leave out the blanks around a
symbol, and only they have nothing for a blank one, so the four agree on exactly the symbols that are not
empty and have no blanks at their ends. What they file for such a symbol is what is counted for it.
-/
namespace PriceHistory

open PriceHistory.Calendar PriceHistory.Database

/-- Is a query one of the cache that is given a symbol in these letters? -/
def PriceQuery.Given (text : String) : PriceQuery → Prop
  | historicalPrices symbol _ _ | pricesOnDate symbol _ _ | pricesOver symbol _ | prices symbol =>
    symbol = text
  | onDate _ _ _ | overSpan _ _ | standard _ => False

theorem PriceQuery.Given.symbol_eq {query : PriceQuery} {text : String} (given : query.Given text)
    (bare : Text.trim text = text) : query.symbol = .of text := by
  cases query with
  | historicalPrices named range date =>
    obtain rfl : named = text := given
    exact congrArg Symbol.of bare
  | pricesOnDate named span date => exact congrArg Symbol.of given
  | pricesOver named span => exact congrArg Symbol.of given
  | prices named => exact congrArg Symbol.of given
  | onDate named span date => exact given.elim
  | overSpan named span => exact given.elim
  | standard named => exact given.elim

/-- A table counts all of its rows for a symbol that all of them have. -/
theorem Database.Table.count_eq_length {t : Table} {symbol : Symbol}
    (own : ∀ row ∈ t.rows, row.key.symbol = .text symbol.text) : t.count symbol = t.rows.length :=
  List.countP_eq_length.mpr fun row member => Cell.same_iff.mpr (congrArg _ (own row member))

namespace Exchange

/-! ### Runs for one symbol -/

section

variable {τ : Type} {exchange : Exchange Database (StateM τ)} {symbol : Symbol}

/-- A query writes records of its symbol alone. -/
theorem store_of_ask (plain : exchange.store = Database.store) (query : PriceQuery) (t : Table)
    (today : Date) (source : τ) :
    ∃ kept, (∀ r ∈ kept, r.key.symbol = query.symbol) ∧
      (query.ask exchange ⟨some t⟩ today source).1.store = ⟨some (t.putEach kept)⟩ := by
  obtain ⟨kept, left, brought⟩ := store_of_carryOut plain (query.plan today) t today source
  refine ⟨kept, fun r member => ?_, by rw [PriceQuery.ask_eq_carryOut, left]⟩
  obtain ⟨served, requests, read, request, among, _, points, _, _, p, _, rfl⟩ := brought r member
  exact (query.plan_under today).symbol_of_form read request among p

/-- So does a run of queries that are all for one symbol. -/
theorem store_of_after (plain : exchange.store = Database.store) {queries : List (Date × PriceQuery)}
    (own : ∀ query ∈ queries, query.2.symbol = symbol) (t : Table) (source : τ) :
    ∃ kept, (∀ r ∈ kept, r.key.symbol = symbol) ∧
      (PriceQuery.after exchange (⟨some t⟩, source) queries).1 = ⟨some (t.putEach kept)⟩ := by
  -- Over the queries: each of them starts from the table that the one before it left.
  induction queries generalizing t source with
  | nil => exact ⟨[], by simp, rfl⟩
  | cons query rest ih =>
    obtain ⟨first, ofFirst, left⟩ := store_of_ask plain query.2 t query.1 source
    obtain ⟨later, ofLater, after⟩ := ih (fun other member => own other (List.mem_cons_of_mem query member))
      (t.putEach first) (query.2.ask exchange ⟨some t⟩ query.1 source).2
    refine ⟨first ++ later, ?_, ?_⟩
    · rw [List.forall_mem_append]
      exact ⟨fun r member => (ofFirst r member).trans (own query List.mem_cons_self), ofLater⟩
    · rw [Table.putEach_append, ← after, ← left]
      rfl

/-- From an empty database, every row that a run for one symbol leaves is counted for it. -/
theorem count_after (plain : exchange.store = Database.store) {queries : List (Date × PriceQuery)}
    {text : String} (own : ∀ query ∈ queries, query.2.symbol = .of text) (source : τ) :
    ∃ t, (PriceQuery.after exchange (.empty, source) queries).1 = ⟨some t⟩ ∧
      Database.count ⟨some t⟩ text = .ok t.rows.length := by
  obtain ⟨kept, ofSymbol, left⟩ := store_of_after plain own .empty source
  refine ⟨_, left, congrArg Except.ok (Table.count_eq_length fun row member => ?_)⟩
  by_contra foreign
  cases (Table.Keyed.empty.mem_rows_putEach_of_symbol ofSymbol foreign).mp member

end

/-! ### What the provider is asked for -/

/-- A provider that has nothing. -/
private def barren : Provider Id :=
  ⟨fun _ => .ok [], .ok [], fun _ => .ok []⟩

private def barrenExchange : Exchange Database Id :=
  ⟨Database.store, barren⟩

/-- An empty database asks for the standard span as a whole. -/
private theorem requests_of_standard (today : Date) (symbol : String) :
    (barrenExchange.standard .empty today symbol).requests =
      [.chart (.days symbol .standard)] := by
  have empty (day : Date) :
      barrenExchange.store.lookup .empty (.of symbol day .wholeDay) = .ok .absent := rfl
  obtain ⟨missing, scanned⟩ := scanDays_of_no_hit fun day (_ : day ∈ Span.standard.window (anchor today)) =>
    .inl (empty day)
  have whole := overDays_of_none scanned
  exact congrArg Outcome.requests (whole.trans (fetchSpan_eq _ _ _))

/-- The four entrances, for a symbol as it is given. If it is not empty and has no blanks at its ends, a
historical query for a range, for a date with a range, or for neither goes like the query that is made for
that, over any store, with any provider: it has the same result and makes the same requests, and leaves the
same contents. Without blanks at the ends, every row that any run of such queries leaves of an empty database
is counted for the symbol. And for no other symbol do the queries without a range go alike. -/
theorem entrances_agree (text : String) :
    (text ≠ "" ∧ Text.trim text = text →
      ∀ {σ : Type} {m : Type → Type} [Monad m] (exchange : Exchange σ m) (s : σ) (today : Date),
        exchange.prices s today text = exchange.historicalPrices s today text none none ∧
        ∀ range, ¬Text.Blank range →
          exchange.pricesOver s today text (.ofToken range) =
            exchange.historicalPrices s today text (some range) none ∧
          ∀ date, ¬Text.Blank date →
            exchange.pricesOnDate s text (.ofToken range) date =
              exchange.historicalPrices s today text (some range) (some date)) ∧
    (Text.trim text = text →
      ∀ {τ : Type} (provider : Provider (StateM τ)) (source : τ) (queries : List (Date × PriceQuery)),
        (∀ query ∈ queries, query.2.Given text) →
        ∃ t, (PriceQuery.after ⟨Database.store, provider⟩ (.empty, source) queries).1 = ⟨some t⟩ ∧
          Database.count ⟨some t⟩ text = .ok t.rows.length) ∧
    ((∀ (exchange : Exchange Database Id) (today : Date),
        exchange.prices .empty today text = exchange.historicalPrices .empty today text none none) →
      text ≠ "" ∧ Text.trim text = text) := by
  refine ⟨?agree, ?counted, ?others⟩
  case agree =>
    rintro ⟨some, bare⟩ σ m _ exchange s today
    have named : ¬Text.Blank text := by
      rw [← Text.trim_eq_empty_iff, bare]
      exact some
    simp only [historicalPrices_eq, if_neg named, bare]
    refine ⟨rfl, fun range given => ?_⟩
    rw [nonBlank?_of_not_blank given]
    refine ⟨rfl, fun date dated => ?_⟩
    rw [nonBlank?_of_not_blank dated]
    rfl
  case counted =>
    intro bare τ provider source queries given
    exact count_after rfl (fun query member => (given query member).symbol_eq bare) source
  case others =>
    intro same
    -- What an empty database asks a provider for tells the two queries apart.
    have requests := congrArg Outcome.requests (same barrenExchange .earliest)
    rw [historicalPrices_eq, show barrenExchange.prices .empty .earliest text =
      barrenExchange.standard .empty .earliest (Text.upper text) from rfl, requests_of_standard] at requests
    split at requests
    · cases requests
    next named =>
      have asked := requests.trans (requests_of_standard .earliest (Text.upper (Text.trim text)))
      have bare : Text.trim text = text := Text.upper_trim_eq_iff.mp (by simpa using asked.symm)
      refine ⟨?_, bare⟩
      rintro rfl
      exact named (by decide)

/-- A provider that has a point of each day as a whole, and one of the Friday for a span. -/
private def dayByDay : Provider (StateM Unit) where
  chart request := pure (.ok (match request with
    | .wholeDay symbol _ day => [⟨.of symbol day .wholeDay, none, none, none, none, .zero⟩]
    | .days symbol _ => [⟨.of symbol (.ofJune 25) .wholeDay, none, none, none, none, .zero⟩]
    | _ => []))
  listings := pure (.ok [])
  lastTrades _ := pure (.ok [])

/-- Two queries for five days, by two of the entrances, bring five points of one symbol. -/
theorem entrances_agree_five_days :
    let exchange : Exchange Database (StateM Unit) := ⟨Database.store, dayByDay⟩
    let today : Date := .ofJune 26
    let queries : List (Date × PriceQuery) :=
      [(today, .historicalPrices "brk.b" (some "5d") none), (today, .pricesOver "brk.b" .fiveDays)]
    exchange.prices .empty today "brk.b" = exchange.historicalPrices .empty today "brk.b" none none ∧
      exchange.pricesOver .empty today "brk.b" .fiveDays =
        exchange.historicalPrices .empty today "brk.b" (some "5d") none ∧
      exchange.pricesOnDate .empty "brk.b" .fiveDays "20210625" =
        exchange.historicalPrices .empty today "brk.b" (some "5d") (some "20210625") ∧
      ∃ t, (PriceQuery.after exchange (.empty, ()) queries).1 = ⟨some t⟩ ∧ t.rows.length = 5 ∧
        Database.count ⟨some t⟩ "brk.b" = .ok 5 := by
  intro exchange today queries
  obtain ⟨agree, counted, -⟩ := entrances_agree "brk.b"
  obtain ⟨standard, ranges⟩ := agree (by decide) exchange .empty today
  obtain ⟨range, dates⟩ := ranges "5d" (by decide)
  obtain ⟨t, left, count⟩ := counted (by decide) dayByDay () queries (by
    intro query member
    simp only [queries, List.mem_cons, List.not_mem_nil, or_false] at member
    rcases member with rfl | rfl <;> rfl)
  have five : (PriceQuery.after exchange (.empty, ()) queries).1.table?.map (·.rows.length) = some 5 := by
    decide +kernel
  rw [show (PriceQuery.after exchange (.empty, ()) queries).1 = ⟨some t⟩ from left] at five
  have rows : t.rows.length = 5 := Option.some.inj five
  exact ⟨standard, range, dates "20210625" (by decide), t, left, rows, rows ▸ count⟩

/-- With blanks at its ends a symbol is another one to three of the entrances and to the count: the queries
ask for different symbols, and the row that a historical query files is not counted. -/
theorem entrances_differ_on_blanks :
    let exchange : Exchange Database (StateM Unit) := ⟨Database.store, dayByDay⟩
    let today : Date := .ofJune 26
    let range := (exchange.pricesOver .empty today " aapl " .fiveDays ()).1
    let historical := (exchange.historicalPrices .empty today " aapl " (some "5d") none ()).1
    Span.ofToken "5d" = .fiveDays ∧ range.requests = [.chart (.days " AAPL " .fiveDays)] ∧
      historical.requests = [.chart (.days "AAPL" .fiveDays)] ∧
      historical.store.table?.map (·.rows.length) = some 1 ∧ historical.store.count " aapl " = .ok 0 := by
  decide +kernel

end Exchange

end PriceHistory
