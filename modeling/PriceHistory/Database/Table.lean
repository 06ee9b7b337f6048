import PriceHistory.Database.Row

/-!
The table of price rows. No two of its rows have keys that count as the same.
-/
namespace PriceHistory.Database

/-- A table of rows, whose keys are compared by a collation. -/
structure Table where
  collation : Collation
  rows : List Row
  deriving DecidableEq

namespace Table

/-- A new table. -/
def empty : Table := ⟨.exact, []⟩

variable (table : Table)

/-- The row under a key. -/
def row? (key : RowKey) : Option Row :=
  table.rows.find? fun row => row.key.same table.collation key

/-- Is there a row under a key? -/
def has (key : Key) : Bool :=
  (table.row? (.of key)).isSome

/-- The record under a key. -/
def find? (key : Key) : Except TableFault (Option Record) :=
  match table.row? (.of key) with
  | some row => row.record?.map some
  | none => .ok none

/-- Files a record. A row that is there already gets its values, and keeps its key cells. -/
def put (record : Record) : Table :=
  let row := Row.of record
  if (table.row? row.key).isSome then
    { table with rows := table.rows.map fun old =>
        if old.key.same table.collation row.key then { old with values := row.values } else old }
  else { table with rows := table.rows ++ [row] }

/-- Puts a row in place of whatever is under its key, cells and all. -/
def replace (row : Row) : Table :=
  { table with
    rows := table.rows.filter (fun old => !old.key.same table.collation row.key) ++ [row] }

/-- The number of points stored for a symbol. -/
def count (symbol : Symbol) : Nat :=
  table.rows.countP fun row => row.key.symbol.same table.collation (.text symbol.text)

/-- The rows in the order of their keys: by symbol, then by date, then by minute. -/
def sorted : List Row :=
  table.rows.mergeSort fun a b =>
    let le := Cell.le table.collation
    if a.key.symbol.same table.collation b.key.symbol then
      if a.key.date.same table.collation b.key.date then le a.key.minute b.key.minute
      else le a.key.date b.key.date
    else le a.key.symbol b.key.symbol

end Table

end PriceHistory.Database
