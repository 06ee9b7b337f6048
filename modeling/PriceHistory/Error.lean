import PriceHistory.Decimal.Reader

/-!
Everything that can go wrong, by cause, and the wording of each cause.
-/
namespace PriceHistory

/-- The columns of the price table, in their order. -/
inductive Column where
  | symbol
  | date
  | minute
  | openPrice
  | high
  | low
  | close
  | volume
  deriving DecidableEq

namespace Column

/-- The columns, in their order. -/
def all : List Column := [symbol, date, minute, openPrice, high, low, close, volume]

/-- A column's place, counted from zero. -/
def index : Column → Nat
  | symbol => 0
  | date => 1
  | minute => 2
  | openPrice => 3
  | high => 4
  | low => 5
  | close => 6
  | volume => 7

/-- A column's name. -/
def name : Column → String
  | symbol => "symbol"
  | date => "date"
  | minute => "minute"
  | openPrice => "open"
  | high => "high"
  | low => "low"
  | close => "close"
  | volume => "volume"

end Column

/-- Why a stored cell cannot be read. -/
inductive CellFault where
  | blob
  | date (text : String)
  | minute (text : String)
  | decimal (text : String) (cause : Decimal.ReadError)
  deriving DecidableEq

/-- The wording for a minute that cannot be read. -/
def minuteMessage (text : String) : String :=
  "Invalid minute: " ++ text

/-- What is put before every fault of reading a value. -/
def parseLabel : String := "Parse error: "

/-- The wording for a cell that cannot be read. -/
def CellFault.message (column : Column) : CellFault → String
  | blob =>
    "Invalid column type Blob at index: " ++ toString column.index ++ ", name: " ++ column.name
  | date text => conversion ("invalid date '" ++ text ++ "'")
  | minute text => conversion (parseLabel ++ minuteMessage text)
  | decimal text cause => conversion ("invalid decimal '" ++ text ++ "': " ++ cause.message)
where
  conversion (why : String) : String :=
    "Conversion error from type Text at index: " ++ toString column.index ++ ", " ++ why

/-- Why the price table does not answer. -/
inductive TableFault where
  /-- There is no price table. -/
  | missing
  | cell (column : Column) (cause : CellFault)
  /-- A row to be written has no value in a column where it needs one. -/
  | required (column : Column)
  deriving DecidableEq

/-- The name of the price table. -/
def priceTableName : String := "historical_prices"

/-- The name of the index of the price table. -/
def priceIndexName : String := "idx_prices_symbol_date"

/-- The wording for a table that does not answer. -/
def TableFault.message : TableFault → String
  | missing => "no such table: " ++ priceTableName
  | cell column cause => cause.message column
  | required column => "NOT NULL constraint failed: " ++ priceTableName ++ "." ++ column.name

/-- Why a text is no path of a database. -/
inductive PathFault where
  /-- It holds the character zero, so many bytes from its start. -/
  | zeroByte (position : Nat)
  /-- It names another machine. -/
  | authority (text : String)
  | accessMode (text : String)
  /-- It asks for an access beyond the one it asked for before. -/
  | forbiddenMode (text : String)
  | cacheMode (text : String)
  | fileSystem (text : String)
  deriving DecidableEq

/-- The wording for a text that is no path of a database. -/
def PathFault.message : PathFault → String
  | zeroByte position => "nul byte found in provided data at position: " ++ toString position
  | authority text => "invalid uri authority: " ++ text
  | accessMode text => "no such access mode: " ++ text
  | forbiddenMode text => "access mode not allowed: " ++ text
  | cacheMode text => "no such cache mode: " ++ text
  | fileSystem text => "no such vfs: " ++ text

/-- Why a statement in the schema of a file cannot be read. -/
inductive StatementFault where
  /-- It goes on with a word that does not belong there. -/
  | near (word : String)
  /-- It holds a character that has no meaning there. -/
  | unrecognized (word : String)
  | incomplete
  /-- It names another database. -/
  | elsewhere
  | repeatedColumn (name : String)
  | tableOption (word : String)
  /-- It makes a table of rows without numbers, but gives it no key. -/
  | noKey (table : String)
  deriving DecidableEq

/-- The wording for a statement that cannot be read. -/
def StatementFault.message : StatementFault → String
  | near word => "near \"" ++ word ++ "\": syntax error"
  | unrecognized word => "unrecognized token: \"" ++ word ++ "\""
  | incomplete => "incomplete input"
  | elsewhere => "corrupt database"
  | repeatedColumn name => "duplicate column name: " ++ name
  | tableOption word => "unknown table option: " ++ word
  | noKey table => "PRIMARY KEY missing on table " ++ table

/-- Why an entry in the schema of a file is of no use. -/
inductive EntryFault where
  | statement (cause : StatementFault)
  /-- Its statement makes something else, or it is not complete. -/
  | unlike
  /-- Its tree starts on no page of the file. -/
  | rootPage
  /-- It is an index of its own, but belongs to no table. -/
  | orphan
  | noTable (name : String)
  | repeated (kind name : String)
  deriving DecidableEq

/-- The wording for an entry of no use. -/
def EntryFault.message : EntryFault → Option String
  | statement cause => some cause.message
  | unlike => none
  | rootPage => some "invalid rootpage"
  | orphan => some "orphan index"
  | noTable name => some ("no such table: main." ++ name)
  | repeated kind name => some (kind ++ " " ++ name ++ " already exists")

/-- Why a file cannot be used as a database. -/
inductive FileFault where
  | notDatabase
  | malformed
  | unsupported
  | readOnly
  /-- Nothing can be written beside the file. -/
  | unopened
  /-- The file does not keep what is written. -/
  | disk
  /-- The file has no room for what is written. -/
  | full
  /-- An entry of its schema, which may lack a name, is of no use. -/
  | entry (name : Option String) (cause : EntryFault)
  deriving DecidableEq

/-- The wording for a file that cannot be used. -/
def FileFault.message : FileFault → String
  | notDatabase => "file is not a database"
  | malformed => "database disk image is malformed"
  | unsupported => "unsupported file format"
  | readOnly => "attempt to write a readonly database"
  | unopened => "unable to open database file"
  | disk => "disk I/O error"
  | full => "database or disk is full"
  | entry name cause =>
    "malformed database schema (" ++ name.getD "?" ++ ")" ++
      (cause.message.map (" - " ++ ·)).getD ""

/-- Why what a database holds leaves no place for the price table and its index. -/
inductive LayoutFault where
  | file (cause : FileFault)
  /-- A table of the same name lacks a key column. -/
  | missingColumn (column : Column)
  /-- An index has the name of the table. -/
  | takenByIndex
  /-- A view has the name of the table. -/
  | takenByView
  /-- A table has the name of the index. -/
  | takenByTable
  deriving DecidableEq

/-- The statement that makes the index, up to its last column, with the blanks before it. -/
def indexStatement : String :=
  "\n\n        CREATE INDEX IF NOT EXISTS " ++ priceIndexName ++ " ON " ++ priceTableName ++
    "(symbol, "

/-- The wording for a database without a place for the price table. The column that a statement
names last is told with the rest of the statement and its place there. -/
def LayoutFault.message : LayoutFault → String
  | file cause => cause.message
  | missingColumn .date =>
    "no such column: date in " ++ indexStatement ++ "date);\n         at offset " ++
      toString indexStatement.length
  | missingColumn column => "no such column: " ++ column.name
  | takenByIndex => "there is already an index named " ++ priceTableName
  | takenByView => "views may not be indexed"
  | takenByTable => "there is already a table named " ++ priceIndexName

/-- Why the database fails. -/
inductive DatabaseFault where
  | existence (cause : TableFault)
  | reading (cause : TableFault)
  | writing (cause : TableFault)
  | counting (cause : TableFault)
  /-- The database at this path can be neither opened nor made. -/
  | unopened (path : String)
  /-- What is at the path is no file and cannot be read like one. -/
  | unreadable
  | badPath (cause : PathFault)
  /-- The file cannot be set to keep a log of its changes. -/
  | log (cause : FileFault)
  | layout (cause : LayoutFault)
  /-- A fault told by its text alone. -/
  | reported (text : String)
  deriving DecidableEq

/-- The wording for a database that fails. -/
def DatabaseFault.message : DatabaseFault → String
  | existence cause => "Existence check failed: " ++ cause.message
  | reading cause => "Failed to read price: " ++ cause.message
  | writing cause => "Failed to upsert price: " ++ cause.message
  | counting cause => cause.message
  | unopened path => "DB error: " ++ FileFault.unopened.message ++ ": " ++ path
  | unreadable => "DB error: " ++ FileFault.disk.message
  | badPath cause => "DB error: " ++ cause.message
  | log cause => "WAL error: " ++ cause.message
  | layout cause => "Migration failed: " ++ cause.message
  | reported text => text

/-- Why the provider gives no answer. -/
inductive ProviderFault where
  /-- No usable answer came over the network. -/
  | network (text : String)
  /-- The answer is not of the expected form. -/
  | parse (text : String)
  /-- The client cannot be made. -/
  | config (text : String)
  /-- A fault told by its text alone. -/
  | reported (text : String)
  deriving DecidableEq

/-- The wording for a provider that gives no answer. -/
def ProviderFault.message : ProviderFault → String
  | network text => "Network error: " ++ text
  | parse text => "Parse error: " ++ text
  | config text => "Config error: " ++ text
  | reported text => text

/-- A setting that cannot be used, with its text as given. -/
inductive SettingFault where
  | concurrency (text : String)
  | timeout (text : String)
  deriving DecidableEq

/-- The wording for a setting that cannot be used. -/
def SettingFault.message : SettingFault → String
  | concurrency text =>
    "PRICECACHE_DAY_FETCH_CONCURRENCY must be a positive integer, got '" ++ text ++ "'"
  | timeout text =>
    "PRICECACHE_HTTP_TIMEOUT_SECS must be a number of seconds, got '" ++ text ++ "'"

/-- Why a request fails. -/
inductive Failure where
  | setting (cause : SettingFault)
  | database (cause : DatabaseFault)
  | provider (cause : ProviderFault)
  /-- A text that is no minute. -/
  | minute (text : String)
  deriving DecidableEq

/-- The wording for a request that fails. -/
def Failure.message : Failure → String
  | setting cause => "Invalid input: " ++ cause.message
  | database cause => "Database error: " ++ cause.message
  | provider cause => "Price source error: " ++ cause.message
  | minute text => parseLabel ++ minuteMessage text

end PriceHistory
