import PriceHistory.Binary64.Shortest
import PriceHistory.Json.Members
import PriceHistory.Record

/-!
What the provider's documents say: points of a chart, listed symbols, and last trades.
-/
namespace PriceHistory

open PriceHistory.Calendar

/-- A decimal, given as text or as a number. A number that is no integer is taken in its shortest
form. -/
def Decimal.ofJson? : Json → Option Decimal
  | .string (some text) => (ofText? text).toOption
  | .number literal =>
    match literal.integer? with
    | some n => of? n 0
    | none => do
      let digits := (← literal.approximate?).positional
      (ofText? (String.ofList (if literal.negative then '-' :: digits else digits))).toOption
  | _ => none

/-- A point of a chart, its date and minute not read yet. -/
structure ChartPoint where
  date : String
  minute : Option String
  openPrice : Option Decimal
  high : Option Decimal
  low : Option Decimal
  close : Option Decimal
  volume : Option Decimal
  deriving DecidableEq

namespace ChartPoint

/-- Reads a point. Only its date has to be there. -/
def ofJson? (j : Json) : Option ChartPoint := do
  let members ← j.members? ["date", "minute", "open", "high", "low", "close", "volume"]
  let price := Json.optional Decimal.ofJson? members
  return {
    date := ← Json.required Json.text? members "date"
    minute := ← Json.optional Json.text? members "minute"
    openPrice := ← price "open"
    high := ← price "high"
    low := ← price "low"
    close := ← price "close"
    volume := ← price "volume" }

/-- The slot of a point: its minute, or the whole day where it has none. -/
def slot? (p : ChartPoint) : Option Slot :=
  match p.minute with
  | some text => (TimeOfDay.ofText? text).map .minute
  | none => some .wholeDay

/-- The record of a point, filed under a symbol. There is none where the date or the minute cannot
be read. A missing volume is zero. -/
def record? (symbol : String) (p : ChartPoint) : Option Record := do
  let date ← Date.ofText? p.date
  let slot ← p.slot?
  return ⟨.of symbol date slot, p.openPrice, p.high, p.low, p.close, p.volume.getD .zero⟩

end ChartPoint

/-- Reads a listed symbol. -/
def Listing.ofJson? (j : Json) : Option Listing := do
  let members ← j.members? ["symbol", "name", "date", "isEnabled"]
  return {
    symbol := ← Json.required Json.text? members "symbol"
    name := ← Json.optional Json.text? members "name"
    date := ← Json.optional Json.text? members "date"
    isEnabled := ← Json.optional Json.flag? members "isEnabled" }

/-- Reads a last trade. -/
def LastTrade.ofJson? (j : Json) : Option LastTrade := do
  let members ← j.members? ["symbol", "price", "size", "time"]
  return {
    symbol := ← Json.required Json.text? members "symbol"
    price := ← Json.required Decimal.ofJson? members "price"
    size := ← Json.optional Decimal.ofJson? members "size"
    time := ← Json.optional Json.integer? members "time" }

end PriceHistory
