import PriceHistory.Database.File.Tree
import PriceHistory.Database.Table

/-!
The pages of a file that holds one price table, its two indexes and the schema that names them.

Trees are laid out from the leaves up. Each page takes as many cells as it has room for. Between two
pages beside each other stands a key, which goes to the page above them: in a table the number of the
last row before it, in an index a whole cell that is in neither page.
-/
namespace PriceHistory.Database

namespace File

/-- The length of the pages that are written. -/
def writtenPageSize : Nat := 4096

/-- The pages laid out so far, without the first of the file. -/
abbrev Layout := StateM (Array (List UInt8))

/-- Lays out a page, and returns its number. -/
def addPage (page : List UInt8) : Layout Nat :=
  modifyGet fun pages => (pages.size + 2, pages.push page)

/-- A page filled up with zeros. -/
def filled (page : List UInt8) : List UInt8 :=
  page ++ List.replicate (writtenPageSize - page.length) 0

/-- The bytes of a row that one page of a chain takes. -/
def chainRoom : Nat := writtenPageSize - 4

/-- Lays out what of a row has no room in its cell as a chain of pages, and returns the first. -/
def addChain (bytes : List UInt8) : Layout Nat := do
  if bytes = [] then return 0
  else
    let next ← addChain (bytes.drop chainRoom)
    addPage (filled (numberBytes 4 next ++ bytes.take chainRoom))
termination_by bytes.length
decreasing_by
  have : 0 < bytes.length := List.length_pos_iff.mpr ‹_›
  simp only [List.length_drop, chainRoom, writtenPageSize]
  omega

/-- The bytes of a row as they stand in a cell with room for `limit` of them. -/
def cellBytes (limit : Nat) (row : List UInt8) : Layout (List UInt8) := do
  let here := localSize writtenPageSize limit row.length
  if row.length ≤ here then return row
  else return row.take here ++ numberBytes 4 (← addChain (row.drop here))

/-- The places of cells that follow one another. -/
def cellPlaces : Nat → List (List UInt8) → List Nat
  | _, [] => []
  | place, cell :: rest => place :: cellPlaces (place + cell.length) rest

/-- A page of a tree that has `before` bytes in front of it, with its last way down if it is an inner
page. The cells stand at its end. -/
def nodeBytes (before mark : Nat) (last : Option Nat) (cells : List (List UInt8)) : List UInt8 :=
  let content := cells.flatten
  let top := writtenPageSize - content.length
  let head := numberBytes 1 mark ++ numberBytes 2 0 ++ numberBytes 2 cells.length ++
    numberBytes 2 top ++ numberBytes 1 0 ++ (last.map (numberBytes 4)).getD [] ++
    (cellPlaces top cells).flatMap (numberBytes 2)
  head ++ List.replicate (top - before - head.length) 0 ++ content

/-- The room that a page has for cells, each with two bytes for its place. -/
def cellRoom : Nat := writtenPageSize - 12

/-- The room that a cell takes. -/
def cellWeight (cell : List UInt8) : Nat := cell.length + 2

/-- Shares cells out to pages, with one cell between each page and the next. The last page is not
left empty. The cells of the page under way are held last first. -/
def shareOut {α : Type} (weight : α → Nat) :
    (used : Nat) → (page : List α) → List α → List (List α × α) × List α
  | _, page, [] => ([], page.reverse)
  | used, page, cell :: rest =>
    if used + weight cell ≤ cellRoom then
      shareOut weight (used + weight cell) (cell :: page) rest
    else
      match page, rest with
      | last :: before, [] => ([(before.reverse, last)], [cell])
      | _, _ =>
        let (pages, last) := shareOut weight 0 [] rest
        ((page.reverse, cell) :: pages, last)

/-- Lays out the inner pages above pages that have keys between them, and returns the root. There are
fewer pages on each level, so a level for each key is enough. -/
def addInner (mark : Nat) : (levels : Nat) → List (Nat × List UInt8) → Nat → Layout Nat
  | 0, _, last => return last
  | _, [], last => return last
  | levels + 1, ways, last => do
    let bytes := fun (way : Nat × List UInt8) => numberBytes 4 way.1 ++ way.2
    let (pages, final) := shareOut (fun way => cellWeight (bytes way)) 0 [] ways
    let ways ← pages.mapM fun (page, way) => do
      return (← addPage (nodeBytes 0 mark (some way.1) (page.map bytes)), way.2)
    let last ← addPage (nodeBytes 0 mark (some last) (final.map bytes))
    addInner mark levels ways last

/-- Gathers numbered cells into pages, all but the last with the number of its last cell. -/
def gather : (used : Nat) → (page : List (Nat × List UInt8)) → List (Nat × List UInt8) →
    List (List (List UInt8) × Nat) × List (List UInt8)
  | _, page, [] => ([], (page.map (·.2)).reverse)
  | used, page, cell :: rest =>
    let weight := cellWeight cell.2
    if used + weight ≤ cellRoom then gather (used + weight) (cell :: page) rest
    else
      let (pages, last) := gather weight [cell] rest
      (((page.map (·.2)).reverse, (page.head?.map (·.1)).getD 0) :: pages, last)

/-- The cell of a table for a row with its number. -/
def tableCell (number : Nat) (row : List UInt8) : Layout (List UInt8) := do
  return packedBytes row.length ++ packedBytes number ++
    (← cellBytes (leafLimit writtenPageSize) row)

/-- Lays out a table of numbered rows, and returns its root. -/
def addTable (rows : List (Nat × List UInt8)) : Layout Nat := do
  let cells ← rows.mapM fun (number, row) => return (number, ← tableCell number row)
  let (pages, final) := gather 0 [] cells
  let ways ← pages.mapM fun (page, number) => do
    return (← addPage (nodeBytes 0 leafMark none page), packedBytes number)
  let last ← addPage (nodeBytes 0 leafMark none final)
  addInner innerMark ways.length ways last

/-- The byte that marks a leaf of an index. -/
def indexLeafMark : Nat := 10

/-- The byte that marks an inner page of an index. -/
def indexInnerMark : Nat := 2

/-- The most bytes of a key that lie in a cell of an index. -/
def indexLimit : Nat := (writtenPageSize - 12) * 64 / 255 - 23

/-- Lays out an index of keys in their order, and returns its root. -/
def addIndex (keys : List (List UInt8)) : Layout Nat := do
  let cells ← keys.mapM fun key => return packedBytes key.length ++ (← cellBytes indexLimit key)
  let (pages, final) := shareOut cellWeight 0 [] cells
  let ways ← pages.mapM fun (page, key) => do
    return (← addPage (nodeBytes 0 indexLeafMark none page), key)
  let last ← addPage (nodeBytes 0 indexLeafMark none final)
  addInner indexInnerMark ways.length ways last

end File

/-- The stored value of a cell. -/
def Cell.value : Cell → Value
  | text s => .text s
  | blob bytes => .blob bytes

/-- The stored values of a row. The last tells when it was written. -/
def Row.storedValues (stamp : String) (row : Row) : List Value :=
  let price (cell? : Option Cell) : Value := (cell?.map Cell.value).getD .null
  let values := row.values
  [row.key.symbol.value, row.key.date.value, row.key.minute.value, price values.openPrice,
    price values.high, price values.low, price values.close, values.volume.value, .text stamp]

namespace Table

variable (table : Table)

/-- The statement that makes a price table. -/
def statement : String :=
  let trims := if table.collation = .trailingSpacesIgnored then " COLLATE RTRIM" else ""
  let column (c : Column) (more : String) := "\n            " ++ c.name ++ " TEXT" ++ more
  "CREATE TABLE " ++ priceTableName ++ " (" ++ ",".intercalate
    [column .symbol (" NOT NULL" ++ trims), column .date (" NOT NULL" ++ trims),
      column .minute (" NOT NULL" ++ trims), column .openPrice "", column .high "", column .low "",
      column .close "", column .volume " NOT NULL",
      "\n            updated_at TEXT NOT NULL",
      "\n            PRIMARY KEY (symbol, date, minute)"] ++ "\n        )"

/-- The statement that makes the index of a price table. -/
def indexStatement : String :=
  "CREATE INDEX " ++ priceIndexName ++ " ON " ++ priceTableName ++ "(symbol, date)"

/-- Are two numbered rows in the order of their keys, as far as `columns` go? Rows that count as the
same are in the order of their numbers. -/
def precedes (columns : List (RowKey → Cell)) (a b : Nat × Row) : Bool :=
  match columns.find? fun column => !(column a.2.key).same table.collation (column b.2.key) with
  | some column => (column a.2.key).le table.collation (column b.2.key)
  | none => a.1 ≤ b.1

/-- The keys of an index over some columns. Each ends with the number of its row. -/
def indexKeys (columns : List (RowKey → Cell)) (rows : List (Nat × Row)) : List (List UInt8) :=
  (rows.mergeSort (table.precedes columns)).map fun (number, row) =>
    rowBytes (columns.map (fun column => (column row.key).value) ++ [.integer number])

/-- The entries of the schema, for trees that start at these roots. -/
def entries (rows own byDate : Nat) : List (List Value) :=
  let entry (kind name : String) (root : Nat) (sql : Value) : List Value :=
    [.text kind, .text name, .text priceTableName, .integer root, sql]
  [entry "table" priceTableName rows (.text table.statement),
    entry "index" ("sqlite_autoindex_" ++ priceTableName ++ "_1") own .null,
    entry "index" priceIndexName byDate (.text indexStatement)]

/-- Lays out a table with its indexes, and returns the first page of the file without its header. -/
def layOut (stamp : String) : File.Layout (List UInt8) := do
  let rows := (List.range' 1 table.rows.length).zip table.rows
  let root ← File.addTable (rows.map fun (n, row) => (n, rowBytes (row.storedValues stamp)))
  let own ← File.addIndex (table.indexKeys [RowKey.symbol, RowKey.date, RowKey.minute] rows)
  let byDate ← File.addIndex (table.indexKeys [RowKey.symbol, RowKey.date] rows)
  let cells ← ((table.entries root own byDate).zipIdx 1).mapM fun (values, n) =>
    File.tableCell n (rowBytes values)
  return File.nodeBytes File.headerSize File.leafMark none cells

/-- The bytes of a file that holds a table, written at the time that a stamp tells. -/
def fileBytes (stamp : String) : List UInt8 :=
  let (first, pages) := (table.layOut stamp).run #[]
  File.headerBytes File.writtenPageSize (pages.size + 1) ++ first ++ pages.toList.flatten

end Table

end PriceHistory.Database
