import PriceHistory.Database.File.Statement
import PriceHistory.Database.File.Tree
import PriceHistory.Text.Digits

/-!
The schema of a file: the tables, indexes and views that it holds, as the entries of its first tree
tell them.
-/
namespace PriceHistory.Database

/-- A row of the schema's own table. -/
structure Entry where
  kind : Option String
  name : Option String
  tableName : Option String
  root : Option String
  sql : Option String
  deriving DecidableEq

namespace Entry

/-- The entry that a row holds. -/
def ofValues (values : List Value) : Entry :=
  let field (i : Nat) := (values.getD i .null).shown?
  ⟨field 0, field 1, field 2, field 3, field 4⟩

/-- The page on which the tree of an entry starts. -/
def page? (entry : Entry) : Option Nat :=
  ((entry.root.filter fun s => s ≠ "" ∧ s.all Char.isDigit).map fun s =>
    Text.digitsValue s.toList).filter (· < 0x100000000)

/-- Do two names name the same? The case of ASCII letters does not count. -/
def sameName (a b : String) : Bool := a.toUpper == b.toUpper

/-- Does an entry say of itself what its statement says? -/
def tells (entry : Entry) (kind name tableName : String) : Bool :=
  [(entry.kind, kind), (entry.name, name), (entry.tableName, tableName)].all fun (told, made) =>
    told.any (sameName made)

/-- Has an entry a statement that makes something? -/
def hasStatement (sql : String) : Bool :=
  (sql.toUpper.toList.take 2) = ['C', 'R']

end Entry

/-- A table in a file. -/
structure TableForm where
  name : String
  body : TableBody
  root : Nat
  deriving DecidableEq

namespace TableForm

/-- The place of a column. -/
def place? (form : TableForm) (name : String) : Option Nat :=
  form.body.columns.findIdx? fun column => Entry.sameName column.name name

/-- The names of the indexes that a table makes by itself. -/
def ownIndexNames (form : TableForm) : List String :=
  (List.range form.body.ownIndexes).map fun i =>
    "sqlite_autoindex_" ++ form.name ++ "_" ++ toString (i + 1)

end TableForm

/-- What a file holds. Indexes are named with their roots and their tables. -/
structure Schema where
  tables : List TableForm
  indexes : List (String × Nat × String)
  views : List String
  deriving DecidableEq

namespace Schema

/-- The schema of a file that holds nothing. -/
def empty : Schema := ⟨[], [], []⟩

variable (schema : Schema)

/-- The table of a name. -/
def table? (name : String) : Option TableForm :=
  schema.tables.find? fun table => Entry.sameName table.name name

/-- Is there a view of a name? -/
def hasView (name : String) : Bool := schema.views.any (Entry.sameName name)

/-- Is there an index of a name? -/
def hasIndex (name : String) : Bool :=
  schema.indexes.any fun (index, _) => Entry.sameName name index

/-- Refuses the name of a table or view that is taken. -/
def freeName (name : String) : Except EntryFault Unit :=
  if (schema.table? name).isSome then .error (.repeated "table" name)
  else if schema.hasView name then .error (.repeated "view" name)
  else .ok ()

/-- Adds what the statement of an entry makes. -/
def withStatement (pageCount : Nat) (entry : Entry) (sql : String) : Except EntryFault Schema := do
  let some root := entry.page?.filter (· ≤ pageCount) | throw .rootPage
  match Statement.ofText? sql with
  | .error cause => throw (.statement cause)
  | .ok (.table name body) =>
    if !entry.tells "table" name name ∨ root = 1 then throw .unlike
    schema.freeName name
    match body with
    | .error cause => throw (.statement cause)
    | .ok body => return { schema with tables := schema.tables ++ [⟨name, body, root⟩] }
  | .ok (.view name) =>
    if !entry.tells "view" name name then throw .unlike
    schema.freeName name
    if root ≠ 0 then throw .unlike
    return { schema with views := schema.views ++ [name] }
  | .ok (.index name tableName) =>
    if (schema.table? tableName).isNone then throw (.noTable tableName)
    if !entry.tells "index" name tableName then throw .unlike
    if schema.hasIndex name then throw (.repeated "index" name)
    if schema.indexes.any fun (_, other, of) => other = root ∧ Entry.sameName of tableName then
      throw .rootPage
    return { schema with indexes := schema.indexes ++ [(name, root, tableName)] }
  | .ok (.trigger name tableName) =>
    if (schema.table? tableName).isNone ∧ !schema.hasView tableName then throw (.noTable tableName)
    if !entry.tells "trigger" name tableName then throw .unlike
    return schema
  | .ok .other => return schema

/-- Adds an index that a table makes by itself. -/
def withOwnIndex (pageCount : Nat) (entry : Entry) (name : String) : Except EntryFault Schema := do
  match schema.tables.find? fun table => table.ownIndexNames.any (Entry.sameName name) with
  | none => if schema.hasIndex name then return schema else throw .orphan
  | some table =>
    let some root := entry.page?.filter fun n => 2 ≤ n ∧ n ≤ pageCount | throw .rootPage
    if schema.indexes.any fun (_, other, of) => other = root ∧ Entry.sameName of table.name then
      throw .rootPage
    return { schema with indexes := schema.indexes ++ [(name, root, table.name)] }

/-- Adds what an entry tells. -/
def withEntry (pageCount : Nat) (entry : Entry) : Except EntryFault Schema :=
  match entry.root, entry.sql.filter Entry.hasStatement, entry.name with
  | none, _, _ => .error .unlike
  | some _, some sql, _ => schema.withStatement pageCount entry sql
  | some _, none, none => .error .unlike
  | some _, none, some name =>
    if entry.sql.getD "" = "" then schema.withOwnIndex pageCount entry name else .error .unlike

/-- The number of values in a row of the schema's own table. -/
def width : Nat := 5

/-- Reads the schema of a file. -/
def ofFile? (file : File) : Except FileFault Schema :=
  file.takeTree (fun schema row => do
    let entry := Entry.ofValues (← rowValues? file.encoding width row)
    match Schema.withEntry schema file.pageCount entry with
    | .ok schema => return schema
    | .error cause => throw (.entry entry.name cause)) 1 empty

end Schema

end PriceHistory.Database
