import PriceHistory.Record
import PriceHistory.Span

/-!
What the cache asks of the provider of market data, in an effect `m` in which it answers.
-/
namespace PriceHistory

open PriceHistory.Calendar

/-- A request for the prices of one symbol. -/
inductive ChartRequest where
  /-- The minutes of one day. -/
  | onDay (symbol : String) (span : Span) (day : Date)
  /-- The days of a span. -/
  | days (symbol : String) (span : Span)
  /-- Whatever the provider shows by itself. -/
  | latest (symbol : String)
  /-- One day as a whole. -/
  | wholeDay (symbol : String) (span : Span) (day : Date)
  deriving DecidableEq

/-- A request to the provider. -/
inductive Request where
  | chart (request : ChartRequest)
  /-- All symbols that the provider lists. -/
  | listings
  | lastTrades (symbols : List String)
  deriving DecidableEq

/-- The provider's answers to each kind of request. -/
structure Provider (m : Type → Type) where
  chart : ChartRequest → m (Except Failure (List Record))
  listings : m (Except Failure (List Listing))
  lastTrades : List String → m (Except Failure (List LastTrade))

end PriceHistory
