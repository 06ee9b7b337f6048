import PriceHistory.Decimal.Sum
import PriceHistory.Provider.Basic

/-!
A provider whose answers are written down beforehand.
-/
namespace PriceHistory.Rehearsal

open PriceHistory.Calendar

/-- The volume of every made-up point. -/
def madeUpVolume : Decimal := .ofInt 46691331 (by decide)

/-- A made-up record: it opens one below its close, and reaches from two below to one above. There
is none where these prices are too large. -/
def madeUp? (key : Key) (close : Decimal) : Option Record := do
  let openPrice ← close.add? (.ofInt (-1) (by decide))
  let high ← close.add? (.ofInt 1 (by decide))
  let low ← close.add? (.ofInt (-2) (by decide))
  return ⟨key, some openPrice, some high, some low, some close, madeUpVolume⟩

/-- Made-up minutes of a day, from one minute of the session to another. The first closes at a given
price, and each one after it a hundredth higher. -/
structure Grid where
  symbol : String
  day : Date
  first : TimeOfDay
  last : TimeOfDay
  close : Decimal

namespace Grid

/-- The minutes of a grid. -/
def minutes (g : Grid) : List TimeOfDay :=
  TimeOfDay.sessionMinutes.filter fun t =>
    g.first.sinceMidnight ≤ t.sinceMidnight ∧ t.sinceMidnight ≤ g.last.sinceMidnight

/-- The records of a grid. -/
def records (g : Grid) : List Record :=
  g.minutes.zipIdx.filterMap fun (time, i) => do
    let close ← g.close.add? (← Decimal.of? i 2)
    madeUp? (.of g.symbol g.day (.minute time)) close

end Grid

/-- An answer that is written down. -/
inductive Script where
  | records (records : List Record)
  | grid (grid : Grid)
  | fault (text : String)

/-- A fault that is told by its text alone. -/
def faultOf {α : Type} (text : String) : Except Failure α :=
  .error (.provider (.reported text))

/-- The answer of a script. -/
def Script.answer : Script → Except Failure (List Record)
  | records rs => .ok rs
  | grid g => .ok g.records
  | fault text => faultOf text

/-- Everything that is written down. The latest script of a date counts. -/
structure Scripts where
  onDay : List (Date × Script)
  wholeDay : List (Date × Script)
  /-- Is a day without a script answered by one made-up minute? -/
  makesUpDays : Bool
  span : Script
  listings : Except Failure (List Listing)
  lastTrades : Except Failure (List LastTrade)

namespace Scripts

/-- Nothing written down: every answer is empty. -/
def blank : Scripts := ⟨[], [], false, .records [], .ok [], .ok []⟩

/-- The minute of a made-up day. -/
def madeUpTime : TimeOfDay := ⟨15, 59, by omega, by omega⟩

/-- A made-up day: one minute, which closes at the month and the day. -/
def madeUpDay (symbol : String) (day : Date) : List Record :=
  ((Decimal.of? (day.month * 100 + day.day : Nat) 2).bind
    (madeUp? (.of symbol day (.minute madeUpTime)))).toList

/-- The answer to a request for a chart. -/
def chart (scripts : Scripts) : ChartRequest → Except Failure (List Record)
  | .onDay _ _ day => ((scripts.onDay.lookup day).getD (.records [])).answer
  | .days _ _ | .latest _ => scripts.span.answer
  | .wholeDay symbol _ day =>
    match scripts.wholeDay.lookup day with
    | some script => script.answer
    | none => .ok (if scripts.makesUpDays then madeUpDay symbol day else [])

/-- The provider that answers by scripts. -/
def provider {m : Type → Type} [Monad m] (scripts : Scripts) : Provider m where
  chart request := return scripts.chart request
  listings := return scripts.listings
  lastTrades _ := return scripts.lastTrades

end Scripts

end PriceHistory.Rehearsal
