import PriceHistory.Calendar.DateText
import PriceHistory.Slot
import PriceHistory.Symbol

/-!
Price points: what identifies one, and what it says.
-/
namespace PriceHistory

open PriceHistory.Calendar

/-- What identifies a price point. -/
structure Key where
  symbol : Symbol
  date : Date
  slot : Slot
  deriving DecidableEq

/-- The key of a symbol given in any case. -/
def Key.of (symbol : String) (date : Date) (slot : Slot) : Key :=
  ⟨.of symbol, date, slot⟩

/-- The prices and the volume of one point. A minute without trades has no prices, and is a point
all the same. -/
structure Record where
  key : Key
  openPrice : Option Decimal
  high : Option Decimal
  low : Option Decimal
  close : Option Decimal
  volume : Decimal
  deriving DecidableEq

namespace Record

/-- The same values under another symbol and in another slot; the date stays. -/
def rekeyed (symbol : String) (slot : Slot) (r : Record) : Record :=
  { r with key := .of symbol r.key.date slot }

@[simp] theorem rekeyed_date (symbol : String) (slot : Slot) (r : Record) :
    (r.rekeyed symbol slot).key.date = r.key.date := rfl

/-- The record filed under a symbol, in its own slot. -/
def filedUnder (symbol : String) (r : Record) : Record :=
  r.rekeyed symbol r.key.slot

/-- The record filed under a symbol for its day as a whole. -/
def filedByDay (symbol : String) (r : Record) : Record :=
  r.rekeyed symbol .wholeDay

/-- Do two records agree in their key and in the values of all numbers, whatever the places? -/
def sameValues (a b : Record) : Bool :=
  a.key = b.key && price a.openPrice b.openPrice && price a.high b.high && price a.low b.low &&
    price a.close b.close && a.volume.sameValue b.volume
where
  price : Option Decimal → Option Decimal → Bool
    | some x, some y => x.sameValue y
    | none, none => true
    | _, _ => false

end Record

/-- A tradable symbol as the provider lists it. -/
structure Listing where
  symbol : String
  name : Option String
  date : Option String
  isEnabled : Option Bool
  deriving DecidableEq

/-- The last trade that the provider knows of a symbol. The time is in milliseconds of the epoch. -/
structure LastTrade where
  symbol : String
  price : Decimal
  size : Option Decimal
  time : Option Int
  deriving DecidableEq

end PriceHistory
