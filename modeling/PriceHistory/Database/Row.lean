import PriceHistory.Database.Cell
import PriceHistory.Record

/-!
Stored rows: how a record is written into cells, and how cells are read back. The three key cells
hold the texts of the symbol, the canonical date and the slot.
-/
namespace PriceHistory.Database

open PriceHistory.Calendar

/-- The key of a row, as three cells. -/
structure RowKey where
  symbol : Cell
  date : Cell
  minute : Cell
  deriving DecidableEq

/-- The cells under which a key is filed. -/
def RowKey.of (key : Key) : RowKey :=
  ⟨.text key.symbol.text, .text key.date.canonical, .text key.slot.text⟩

/-- Do two row keys name the same row? -/
def RowKey.same (collation : Collation) (a b : RowKey) : Bool :=
  a.minute.same collation b.minute && a.date.same collation b.date &&
    a.symbol.same collation b.symbol

/-- The values of a row; a price may be null. -/
structure RowValues where
  openPrice : Option Cell
  high : Option Cell
  low : Option Cell
  close : Option Cell
  volume : Cell
  deriving DecidableEq

/-- The cells that hold a record's numbers. -/
def RowValues.of (r : Record) : RowValues where
  openPrice := r.openPrice.map fun d => .text d.text
  high := r.high.map fun d => .text d.text
  low := r.low.map fun d => .text d.text
  close := r.close.map fun d => .text d.text
  volume := .text r.volume.text

/-- A stored row. -/
structure Row where
  key : RowKey
  values : RowValues
  deriving DecidableEq

namespace Row

/-- The row that holds a record. -/
def of (r : Record) : Row :=
  ⟨.of r.key, .of r⟩

/-- The row that cells make up. Only prices may be null, and the first column that lacks its cell is
reported. -/
def ofCells (cell? : Column → Option Cell) : Except TableFault Row := do
  let needed (column : Column) : Except TableFault Cell :=
    match cell? column with
    | some cell => .ok cell
    | none => .error (.required column)
  let key : RowKey := ⟨← needed .symbol, ← needed .date, ← needed .minute⟩
  return ⟨key, cell? .openPrice, cell? .high, cell? .low, cell? .close, ← needed .volume⟩

/-- A fault within a column. -/
def within {α : Type} (column : Column) : Except CellFault α → Except TableFault α
  | .ok value => .ok value
  | .error cause => .error (.cell column cause)

/-- Reads a decimal. -/
def readDecimal (text : String) : Except CellFault Decimal :=
  match Decimal.ofText? text with
  | .ok d => .ok d
  | .error cause => .error (.decimal text cause)

/-- Reads a price, which may be null. -/
def readPrice (column : Column) : Option Cell → Except TableFault (Option Decimal)
  | none => .ok none
  | some cell => do
    let text ← within column cell.read
    return some (← within column (readDecimal text))

/-- Reads a date, in either form. -/
def readDate (text : String) : Except CellFault Date :=
  match Date.ofText? text with
  | some d => .ok d
  | none => .error (.date text)

/-- Reads a slot. -/
def readSlot (text : String) : Except CellFault Slot :=
  match Slot.ofText? text with
  | .ok slot => .ok slot
  | .error _ => .error (.minute text)

/-- Reads a row back, column by column: first the texts of the key cells, then what they mean, then
the numbers. -/
def record? (row : Row) : Except TableFault Record := do
  let symbol ← within .symbol row.key.symbol.read
  let dateText ← within .date row.key.date.read
  let minuteText ← within .minute row.key.minute.read
  let date ← within .date (readDate dateText)
  let slot ← within .minute (readSlot minuteText)
  let openPrice ← readPrice .openPrice row.values.openPrice
  let high ← readPrice .high row.values.high
  let low ← readPrice .low row.values.low
  let close ← readPrice .close row.values.close
  let volumeText ← within .volume row.values.volume.read
  let volume ← within .volume (readDecimal volumeText)
  return ⟨.of symbol date slot, openPrice, high, low, close, volume⟩

end Row

end PriceHistory.Database
