import PriceHistory.CommandLine.Help
import PriceHistory.Database.File
import PriceHistory.Database.File.Layout
import PriceHistory.Provider.Client
import PriceHistory.Query
import PriceHistory.Report
import PriceHistory.Settings

/-!
A whole run of the program: from the arguments and the environment to the text that is shown and the
exit code. What the run needs of the machine it runs on is given as a value, in an effect `m`.
-/
namespace PriceHistory

open PriceHistory.Calendar

/-- What is found at the path of a file. -/
inductive Found where
  /-- Nothing can be there. -/
  | unreachable
  /-- Nothing is there yet. -/
  | missing
  | folder
  | bytes (content : List UInt8)
  deriving DecidableEq

/-- The machine that a program runs on. -/
structure Machine (m : Type → Type) where
  environment : Environment
  today : m Date
  look : String → m Found
  save : String → List UInt8 → m Unit
  /-- The way to the web, for requests that are given up after some seconds. -/
  transport : Nat → Transport m

/-- How a run ends. -/
structure Ending where
  exitCode : Nat
  output : String
  problem : Option String
  deriving DecidableEq

namespace Ending

/-- A run that shows a text. -/
def shown (output : String) : Ending := ⟨0, output, none⟩

/-- A run that shows nothing, because of a failure. -/
def failed (e : Failure) : Ending := ⟨1, "", some e.message⟩

/-- A run whose arguments name no command. -/
def misused (fault : Command.UsageFault) : Ending :=
  match fault with
  | .help topic => shown (String.join ((Command.helpPage topic).map (· ++ "\n")))
  | _ => ⟨fault.exitCode, "", some (String.join (Command.overview.map (· ++ "\n")))⟩

end Ending

namespace Database

/-- Opens the database that is found at a path, which was given as `given`. -/
def ofFound? (given path : String) (access : Access) (handling : Handling) :
    Found → Except Failure Database
  | .unreachable => .error (.database (.unopened given))
  | .missing =>
    if access = .making ∧ Location.takesFiles path then ofBytes? path access handling []
    else .error (.database (.unopened given))
  | .folder =>
    .error (.database (if access = .reading then .unreadable else .unopened given))
  | .bytes content => ofBytes? path access handling content

end Database

namespace Machine

variable {m : Type → Type} [Monad m] (machine : Machine m)

/-- Opens the database at a path, and returns it with the file it is to be kept in, if any. -/
def openDatabase (path : String) : m (Except Failure (Database × Option String)) := do
  match Database.Location.ofPath? path with
  | .error cause => return .error (.database (.badPath cause))
  | .ok (.passing writable) =>
    let writing := if writable then .ok () else .error .readOnly
    return (Database.opened writing .nothing).map fun db => (db, none)
  | .ok (.file file access handling) =>
    let kept := Database.Location.resolved file
    let found ← if Database.Location.isDevice kept then pure (.bytes [])
      else if Database.Location.canHoldFile file then machine.look kept
      else pure .unreachable
    return (Database.ofFound? path kept access handling found).map fun db =>
      (db, if access = .reading ∨ handling = .fixed then none else some kept)

/-- Keeps a database in its file. -/
def keep (db : Database) (today : Date) : Option String → m Unit
  | none => return ()
  | some file => machine.save file ((db.table?.getD .empty).fileBytes today.canonical)

end Machine

namespace Command

variable {m : Type → Type} [Monad m]

/-- Answers a command with the text to show. -/
def answer (exchange : Exchange Database m) (db : Database) (today : Date) :
    Command → m (Outcome Database String)
  | history symbol range date => do
    let found ← exchange.historicalPrices db today symbol range date
    return found.map fun records => Report.list (records.map Record.fields)
  | symbols => do
    let found ← exchange.listings db
    return found.map fun listings => Report.list (listings.map Listing.fields)
  | last asked => do
    let found ← exchange.lastTrades db asked
    return found.map fun trades => Report.list (trades.map LastTrade.fields)
  | stats symbol =>
    return .quiet ((db.count symbol).map fun n =>
      Text.upper symbol ++ ": " ++ toString n ++ " cached points") db

end Command

namespace Program

variable {m : Type → Type} [Monad m] (machine : Machine m)

/-- Runs a command. Whatever it has stored is kept, also when it fails. -/
def perform (settings : Settings) (command : Command) : m Ending := do
  match ← machine.openDatabase settings.database with
  | .error e => return .failed e
  | .ok (db, file) =>
    let client := Client.of settings.baseAddress settings.token
    let exchange := ⟨Database.store, client.provider (machine.transport settings.timeout)⟩
    let today ← machine.today
    let outcome ← command.answer exchange db today
    machine.keep outcome.store today file
    match outcome.result with
    | .ok text => return .shown (text ++ "\n")
    | .error e => return .failed e

/-- Runs the program with its arguments. -/
def run (arguments : List String) : m Ending := do
  match Command.ofArguments? arguments with
  | .error fault => return .misused fault
  | .ok command =>
    match Settings.ofEnvironment? machine.environment with
    | .error e => return .failed e
    | .ok settings => perform machine settings command

end Program

end PriceHistory
