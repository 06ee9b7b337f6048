import PriceHistory.Database.Basic
import PriceHistory.Database.File.Schema

/-!
The price table among the tables of a file.
-/
namespace PriceHistory.Database

/-- The cell of a stored value. A number counts as its text. -/
def Cell.ofValue? : Value → Option Cell
  | .null => none
  | .text s => some (text s)
  | .blob bytes => some (blob bytes)
  | value => value.shown?.map text

/-- The row that stored values make up, if they have all that a row needs. -/
def Row.ofValues? (places : Column → Nat) (values : List Value) : Option Row :=
  (Row.ofCells fun column => Cell.ofValue? (values.getD (places column) .null)).toOption

namespace TableForm

/-- The columns that make up the key of the price table. -/
def keyColumns : List Column := [.symbol, .date, .minute]

/-- The collation that leaves out spaces at the end. -/
def trimmingName : String := "RTRIM"

/-- How the key cells of a table are compared. -/
def collation (form : TableForm) : Collation :=
  let trims := keyColumns.all fun key =>
    form.body.columns.any fun column => Entry.sameName column.name key.name &&
      column.collation.any (Entry.sameName trimmingName)
  if trims then .trailingSpacesIgnored else .exact

/-- The places of the columns of the price table, where each of them is there. -/
def places? (form : TableForm) : Option (Column → Nat) := do
  let place (column : Column) := form.place? column.name
  if Column.all.all fun column => (place column).isSome then
    some fun column => (place column).getD 0
  else none

/-- The rows of a table in a file. Only a table with numbered rows and all columns of the price table
shows any. -/
def rows? (form : TableForm) (file : File) : Except FileFault (List Row) :=
  let places? := form.places?
  if !form.body.numbered then .ok []
  else (file.takeTree (fun rows row => do
    let values ← rowValues? file.encoding form.body.columns.length row
    match places?.bind fun places => Row.ofValues? places values with
    | some row => return row :: rows
    | none => return rows) form.root []).map List.reverse

end TableForm

/-- What a file holds under the names of the price table and its index. The table is made before the
index, and what a write would meet counts only when something has to be made. To make the index all
rows are read; where it is there, rows that cannot be read are left out. -/
def Contents.ofSchema (file : File) (writing : Except FileFault Unit) (schema : Schema) : Contents :=
  let indexed := schema.hasIndex priceIndexName
  let nameTaken := (schema.table? priceIndexName).isSome || schema.hasView priceIndexName
  let adding := do writing; if !file.canGrow then throw .malformed
  match schema.table? priceTableName with
  | none =>
    if schema.hasView priceTableName then .foreign .takenByView
    else if schema.hasIndex priceTableName then .foreign .takenByIndex
    else
      match adding with
      | .error cause => .foreign (.file cause)
      | .ok () => if nameTaken then .foreign .takenByTable else .nothing
  | some form =>
    let rows := form.rows? file
    if nameTaken then .foreign .takenByTable
    else if indexed then .prices ⟨form.collation, rows.toOption.getD []⟩ true
    else
      match [Column.symbol, .date].find? fun column => (form.place? column.name).isNone with
      | some column => .foreign (.missingColumn column)
      | none =>
        match (do adding; rows) with
        | .ok rows => .prices ⟨form.collation, rows⟩ false
        | .error cause => .foreign (.file cause)

end PriceHistory.Database
