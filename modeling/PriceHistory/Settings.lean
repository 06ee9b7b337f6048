import PriceHistory.Error
import PriceHistory.Text.Blank

/-!
Settings and where they come from: variables of the environment, each with a standard value. Numbers
are checked in a fixed order, so one bad number hides a later one.
-/
namespace PriceHistory

open PriceHistory.Text

/-- The variables that are looked at. -/
inductive Variable where
  | database
  | baseAddress
  | token
  | concurrency
  | timeout
  deriving DecidableEq

/-- The name of a variable. -/
def Variable.name : Variable → String
  | database => "PRICECACHE_DB"
  | baseAddress => "PRICECACHE_IEX_BASE_URL"
  | token => "PRICECACHE_IEX_TOKEN"
  | concurrency => "PRICECACHE_DAY_FETCH_CONCURRENCY"
  | timeout => "PRICECACHE_HTTP_TIMEOUT_SECS"

/-- The texts of the variables that are set. -/
abbrev Environment := Variable → Option String

/-- What can be set. -/
structure Settings where
  /-- The path of the database. -/
  database : String
  /-- The address of the provider's service. -/
  baseAddress : String
  /-- What the provider knows its customer by. -/
  token : Option String
  /-- How many days may be fetched at once. -/
  concurrency : Nat
  /-- The seconds after which a request is given up. -/
  timeout : Nat
  deriving DecidableEq

namespace Settings

/-- The settings of an empty environment. -/
def standard : Settings where
  database := "./pricecache.db"
  baseAddress := "https://cloud.iexapis.com/stable"
  token := none
  concurrency := 4
  timeout := 30

/-- The standard settings with a database that is never written to a file. -/
def inMemory : Settings :=
  { standard with database := ":memory:" }

/-- Numbers are below this one. -/
def numberLimit : Nat := 1 <<< 64

/-- Reads a number: digits, perhaps after a plus, with blanks around them. -/
def readNumber? (text : String) : Option Nat :=
  let digits := match (trim text).toList with
    | '+' :: rest => rest
    | cs => cs
  if digits ≠ [] ∧ digits.all Char.isDigit ∧ digitsValue digits < numberLimit then
    some (digitsValue digits)
  else none

/-- The number that a variable gives, or the standard one where it is not set. -/
def number (fault : String → SettingFault) (least standard : Nat) :
    Option String → Except Failure Nat
  | none => .ok standard
  | some text =>
    match (readNumber? text).filter (least ≤ ·) with
    | some n => .ok n
    | none => .error (.setting (fault text))

/-- The settings of an environment. An empty token is none. -/
def ofEnvironment? (env : Environment) : Except Failure Settings := do
  let concurrency ← number .concurrency 1 standard.concurrency (env .concurrency)
  let timeout ← number .timeout 0 standard.timeout (env .timeout)
  return {
    database := (env .database).getD standard.database
    baseAddress := (env .baseAddress).getD standard.baseAddress
    token := (env .token).filter (· ≠ "")
    concurrency, timeout }

end Settings

end PriceHistory
