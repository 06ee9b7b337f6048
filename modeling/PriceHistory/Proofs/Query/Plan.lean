import PriceHistory.Query

/-!
What a query for prices comes to. Each of them, whatever its form, asks for nothing, for the minutes
of one day, or for the days of a span; which of these it is depends on its texts and on today alone.
-/
namespace PriceHistory

open PriceHistory.Calendar

/-- A query for prices: those of the cache, and those of the exchange behind it. -/
inductive PriceQuery where
  | historicalPrices (symbol : String) (range date : Option String)
  | pricesOnDate (symbol : String) (span : Span) (date : String)
  | pricesOver (symbol : String) (span : Span)
  | prices (symbol : String)
  | onDate (symbol : String) (span : Span) (date : String)
  | overSpan (symbol : String) (span : Span)
  | standard (symbol : String)

/-- What a query comes to. -/
inductive Plan where
  | nothing
  /-- The minutes of one day. -/
  | minutes (symbol : String) (span : Span) (day : Date)
  /-- The days of a span. -/
  | days (symbol : String) (span : Span)

namespace Plan

/-- The plan for a date that is given in the compact form. -/
def ofDate (symbol : String) (span : Span) (date : String) : Plan :=
  match Date.ofCompact? date with
  | some day => .minutes symbol span day
  | none => .nothing

/-- The plan for a span. -/
def ofSpan (today : Date) (symbol : String) : Span → Plan
  | .oneDay => .minutes symbol .oneDay (Exchange.anchor today)
  | .byDate => .days symbol .oneMonth
  | span => .days symbol span

variable {σ : Type} {m : Type → Type} [Monad m]

/-- Answers a plan. -/
def carryOut (exchange : Exchange σ m) (s : σ) (today : Date) : Plan → m (Outcome σ (List Record))
  | nothing => return .quiet (.ok []) s
  | minutes symbol span day => exchange.onDay s symbol span day
  | days symbol span => exchange.overDays s symbol span (Exchange.anchor today)

theorem carryOut_ofDate (exchange : Exchange σ m) (s : σ) (today : Date) (symbol : String)
    (span : Span) (date : String) :
    (ofDate symbol span date).carryOut exchange s today = exchange.onDate s symbol span date := by
  unfold ofDate Exchange.onDate
  cases Date.ofCompact? date <;> rfl

theorem carryOut_ofSpan (exchange : Exchange σ m) (s : σ) (today : Date) (symbol : String)
    (span : Span) :
    (ofSpan today symbol span).carryOut exchange s today =
      exchange.overSpan s today symbol span := by
  cases span <;> rfl

end Plan

namespace PriceQuery

/-- The symbol that a query names. -/
def symbol : PriceQuery → Symbol
  | historicalPrices symbol _ _ => .of (Text.trim symbol)
  | pricesOnDate symbol _ _ | pricesOver symbol _ | prices symbol => .of symbol
  | onDate symbol _ _ | overSpan symbol _ | standard symbol => .of symbol

/-- The plan for a query. -/
def plan (today : Date) : PriceQuery → Plan
  | historicalPrices symbol range date =>
    let symbol := Text.upper (Text.trim symbol)
    if symbol = "" then .nothing
    else
      match nonBlank? date, nonBlank? range with
      | some date, range => .ofDate symbol ((range.map .ofToken).getD .byDate) date
      | none, some range => .ofSpan today symbol (.ofToken range)
      | none, none => .ofSpan today symbol .standard
  | pricesOnDate symbol span date => .ofDate (Text.upper symbol) span date
  | pricesOver symbol span => .ofSpan today (Text.upper symbol) span
  | prices symbol => .ofSpan today (Text.upper symbol) .standard
  | onDate symbol span date => .ofDate symbol span date
  | overSpan symbol span => .ofSpan today symbol span
  | standard symbol => .ofSpan today symbol .standard

variable {σ : Type} {m : Type → Type} [Monad m]

/-- Puts a query to an exchange. -/
def ask (exchange : Exchange σ m) (s : σ) (today : Date) :
    PriceQuery → m (Outcome σ (List Record))
  | historicalPrices symbol range date => exchange.historicalPrices s today symbol range date
  | pricesOnDate symbol span date => exchange.pricesOnDate s symbol span date
  | pricesOver symbol span => exchange.pricesOver s today symbol span
  | prices symbol => exchange.prices s today symbol
  | onDate symbol span date => exchange.onDate s symbol span date
  | overSpan symbol span => exchange.overSpan s today symbol span
  | standard symbol => exchange.standard s today symbol

/-- A query is answered by its plan. -/
theorem ask_eq_carryOut (query : PriceQuery) (exchange : Exchange σ m) (s : σ) (today : Date) :
    query.ask exchange s today = (query.plan today).carryOut exchange s today := by
  cases query with
  | historicalPrices symbol range date =>
    simp only [ask, plan, Exchange.historicalPrices]
    -- A date goes before a span, and a span before none.
    by_cases blank : Text.upper (Text.trim symbol) = ""
    · rw [if_pos blank, if_pos blank]
      rfl
    · rw [if_neg blank, if_neg blank]
      cases nonBlank? date with
      | some date => exact (Plan.carryOut_ofDate exchange s today _ _ date).symm
      | none =>
        cases nonBlank? range with
        | some range => exact (Plan.carryOut_ofSpan exchange s today _ _).symm
        | none => exact (Plan.carryOut_ofSpan exchange s today _ .standard).symm
  | pricesOnDate symbol span date => exact (Plan.carryOut_ofDate exchange s today _ _ date).symm
  | pricesOver symbol span => exact (Plan.carryOut_ofSpan exchange s today _ _).symm
  | prices symbol => exact (Plan.carryOut_ofSpan exchange s today _ .standard).symm
  | onDate symbol span date => exact (Plan.carryOut_ofDate exchange s today _ _ date).symm
  | overSpan symbol span => exact (Plan.carryOut_ofSpan exchange s today _ _).symm
  | standard symbol => exact (Plan.carryOut_ofSpan exchange s today _ .standard).symm

end PriceQuery

/-- Is a plan for a symbol, if it asks for anything? -/
def Plan.Under (own : Symbol) : Plan → Prop
  | nothing => True
  | minutes symbol _ _ | days symbol _ => .of symbol = own

theorem Plan.under_ofDate (symbol : String) (span : Span) (date : String) :
    (ofDate symbol span date).Under (.of symbol) := by
  unfold ofDate
  split
  · rfl
  · trivial

theorem Plan.under_ofSpan (today : Date) (symbol : String) (span : Span) :
    (ofSpan today symbol span).Under (.of symbol) := by
  cases span <;> rfl

/-- The plan for a query is for the symbol that it names. -/
theorem PriceQuery.plan_under (query : PriceQuery) (today : Date) :
    (query.plan today).Under query.symbol := by
  cases query with
  | historicalPrices named range date =>
    rw [plan, symbol, ← Symbol.of_upper (Text.trim named)]
    generalize Text.upper (Text.trim named) = given
    split
    · trivial
    · split
      · exact Plan.under_ofDate given _ _
      · exact Plan.under_ofSpan today given _
      · exact Plan.under_ofSpan today given _
  | pricesOnDate named span date =>
    rw [plan, symbol, ← Symbol.of_upper named]
    exact Plan.under_ofDate (Text.upper named) span date
  | pricesOver named span =>
    rw [plan, symbol, ← Symbol.of_upper named]
    exact Plan.under_ofSpan today (Text.upper named) span
  | prices named =>
    rw [plan, symbol, ← Symbol.of_upper named]
    exact Plan.under_ofSpan today (Text.upper named) .standard
  | onDate named span date => exact Plan.under_ofDate named span date
  | overSpan named span => exact Plan.under_ofSpan today named span
  | standard named => exact Plan.under_ofSpan today named .standard

end PriceHistory
