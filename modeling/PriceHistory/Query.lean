import PriceHistory.Reconcile
import PriceHistory.Text.Blank

/-!
The queries that the cache answers. Symbols may be given in any case. A historical query names a
date, or a span, or neither; a blank text names nothing.
-/
namespace PriceHistory

/-- A text that is given and not blank. -/
def nonBlank? (text : Option String) : Option String :=
  text.filter fun s => !decide (Text.Blank s)

namespace Exchange

open PriceHistory.Calendar

variable {σ : Type} {m : Type → Type} [Monad m] (exchange : Exchange σ m)

/-- The prices of a date. -/
def pricesOnDate (s : σ) (symbol : String) (span : Span) (date : String) :
    m (Outcome σ (List Record)) :=
  exchange.onDate s (Text.upper symbol) span date

/-- The prices of a span. -/
def pricesOver (s : σ) (today : Date) (symbol : String) (span : Span) :
    m (Outcome σ (List Record)) :=
  exchange.overSpan s today (Text.upper symbol) span

/-- The prices of the standard span. -/
def prices (s : σ) (today : Date) (symbol : String) : m (Outcome σ (List Record)) :=
  exchange.standard s today (Text.upper symbol)

/-- The prices of a date where one is given, else of a span where one is given, else of the standard
span. There are none for a blank symbol. -/
def historicalPrices (s : σ) (today : Date) (symbol : String) (range date : Option String) :
    m (Outcome σ (List Record)) :=
  let symbol := Text.upper (Text.trim symbol)
  if symbol = "" then return .quiet (.ok []) s
  else
    match nonBlank? date, nonBlank? range with
    | some date, range => exchange.onDate s symbol ((range.map .ofToken).getD .byDate) date
    | none, some range => exchange.overSpan s today symbol (.ofToken range)
    | none, none => exchange.standard s today symbol

/-- All symbols that the provider lists. -/
def listings (s : σ) : m (Outcome σ (List Listing)) := do
  return ⟨← exchange.provider.listings, s, [.listings]⟩

/-- The symbols of a request for last trades: without the blanks around them, and without those that
are blank. -/
def askedSymbols (symbols : List String) : List String :=
  (symbols.map Text.trim).filter (· ≠ "")

/-- The last trades of some symbols. Nothing is asked for none. -/
def lastTrades (s : σ) (symbols : List String) : m (Outcome σ (List LastTrade)) :=
  match askedSymbols symbols with
  | [] => return .quiet (.ok []) s
  | symbols => do return ⟨← exchange.provider.lastTrades symbols, s, [.lastTrades symbols]⟩

end Exchange

end PriceHistory
