import PriceHistory.Database.Table
import PriceHistory.Store

/-!
The database as a store of price points. It answers only while it has a price table.
-/
namespace PriceHistory

open PriceHistory.Database

/-- A database, with its price table if it has one. -/
structure Database where
  table? : Option Table
  deriving DecidableEq

namespace Database

/-- What a database holds under the names of the price table and of its index before it is opened. -/
inductive Contents where
  | nothing
  /-- The price table, with its index or without. -/
  | prices (table : Table) (indexed : Bool)
  /-- Something that leaves no place for them. -/
  | foreign (cause : LayoutFault)
  deriving DecidableEq

/-- Opens a database: a price table that is there is kept, and what is missing is made. `writing` is
what a write would meet. -/
def opened (writing : Except FileFault Unit) : Contents → Except Failure Database
  | .nothing => made .empty
  | .prices table indexed => if indexed then .ok ⟨some table⟩ else made table
  | .foreign cause => .error (.database (.layout cause))
where
  made (table : Table) : Except Failure Database :=
    match writing with
    | .ok () => .ok ⟨some table⟩
    | .error cause => .error (.database (.layout (.file cause)))

/-- A new database. -/
def empty : Database := ⟨some .empty⟩

variable (db : Database)

/-- What is found on opening a database again. -/
def contents : Contents :=
  match db.table? with
  | some table => .prices table true
  | none => .nothing

/-- Asks the price table. -/
def ask {α : Type} (fault : TableFault → DatabaseFault) (question : Table → Except TableFault α) :
    Except Failure α :=
  match db.table? with
  | none => .error (.database (fault .missing))
  | some table =>
    match question table with
    | .ok answer => .ok answer
    | .error cause => .error (.database (fault cause))

/-- Is there a point under a key? -/
def has (key : Key) : Except Failure Bool :=
  db.ask .existence fun table => .ok (table.has key)

/-- The record under a key. -/
def find? (key : Key) : Except Failure (Option Record) :=
  db.ask .reading fun table => table.find? key

/-- Files a record. -/
def put (record : Record) : Except Failure Database :=
  db.ask .writing fun table => .ok ⟨some (table.put record)⟩

/-- The number of points stored for a symbol. -/
def count (symbol : String) : Except Failure Nat :=
  db.ask .counting fun table => .ok (table.count (.of symbol))

/-- The database as a store. A failed write leaves the database as it was. -/
def store : Store Database where
  has := has
  find? := find?
  put db record :=
    match db.put record with
    | .ok db => (.ok (), db)
    | .error e => (.error e, db)

end Database

end PriceHistory
