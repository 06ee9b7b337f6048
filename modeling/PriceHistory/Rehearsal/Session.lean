import PriceHistory.Database.Basic
import PriceHistory.Query
import PriceHistory.Rehearsal.Faults
import PriceHistory.Rehearsal.Peer
import PriceHistory.Rehearsal.Script

/-!
A session with the cache, step by step, with a fixed day as today, a scripted provider or peer, and
faults on demand. Queries of the cache ask the database itself; queries of the exchange ask it through
the faults, and always ask the scripted provider.
-/
namespace PriceHistory.Rehearsal

open PriceHistory.Calendar
open PriceHistory.Web (Reply)

/-- A step of a session. -/
inductive Step where
  | historicalPrices (symbol : String) (range date : Option String)
  | pricesOnDate (symbol : String) (span : Span) (date : String)
  | pricesOver (symbol : String) (span : Span)
  | prices (symbol : String)
  | listings
  | lastTrades (symbols : List String)
  | count (symbol : String)
  | has (key : Key)
  | find (key : Key)
  | put (record : Record)
  | exchangeOnDate (symbol : String) (span : Span) (date : String)
  | exchangeOver (symbol : String) (span : Span)
  | exchangeStandard (symbol : String)
  | lookup (key : Key)
  | ghost (key : Key)
  | fault (action : Action) (key : Key) (text : String)
  | heal
  | script (change : Scripts → Scripts)
  | moveTo (today : Date)
  | reopen
  | dropTable
  | putRow (cell? : Column → Option Database.Cell)
  | dump

/-- What a step answers. -/
inductive Answer where
  | done
  | flag (value : Bool)
  | number (n : Nat)
  | record (found : Option Record)
  | lookup (found : Lookup)
  | records (records : List Record)
  | listings (listings : List Listing)
  | lastTrades (trades : List LastTrade)
  | rows (rows : List Database.Row)

/-- A call that left the cache: a request of the provider, or the first line of what a peer saw. -/
inductive Call where
  | request (request : Request)
  | line (text : String)

/-- The answer to a step, with the calls made for it. -/
structure Response where
  answer : Except Failure Answer
  calls : List Call

/-- The state of a session. -/
structure Session where
  today : Date
  database : Database
  faults : Faults
  scripts : Scripts
  /-- The client that takes the place of the scripted provider, if there is one. -/
  client : Option Client
  peer : Peer

namespace Session

/-- Opens a session on a database. -/
def opened (today : Date) (contents : Database.Contents) (client : Option Client) (peer : Peer) :
    Except Failure Session :=
  (Database.opened (.ok ()) contents).map fun database => ⟨today, database, .none, .blank, client, peer⟩

/-- The provider of the cache. -/
def provider (s : Session) : Provider (StateM Peer) :=
  match s.client with
  | some client => client.provider Peer.transport
  | none => s.scripts.provider

/-- The calls of a step: what the peer saw where there is a client, else the requests. -/
def callsOf (s : Session) (requests : List Request) (seen : List String) : List Call :=
  match s.client with
  | some _ => seen.map .line
  | none => requests.map .request

/-- Puts a query to the cache. -/
def askCache {α : Type} (s : Session) (form : α → Answer)
    (query : Exchange Database (StateM Peer) → StateM Peer (Outcome Database α)) :
    Response × Session :=
  let (outcome, peer) := query ⟨Database.store, s.provider⟩ { s.peer with seen := [] }
  (⟨outcome.result.map form, s.callsOf outcome.requests peer.seen⟩,
    { s with database := outcome.store, peer })

/-- Puts a query to the exchange behind the faults. -/
def askExchange (s : Session)
    (query : Exchange (Faults × Database) Id → Faults × Database →
      Outcome (Faults × Database) (List Record)) : Response × Session :=
  let outcome := query ⟨Faults.behind Database.store, s.scripts.provider⟩ (s.faults, s.database)
  (⟨outcome.result.map .records, s.callsOf outcome.requests []⟩,
    { s with faults := outcome.store.1, database := outcome.store.2 })

/-- Answers without a call. -/
def tell (s : Session) (answer : Except Failure Answer) : Response × Session :=
  (⟨answer, []⟩, s)

/-- The session with another database, or the failure to get one. -/
def withDatabase (s : Session) (database : Except Failure Database) (answer : Answer) :
    Response × Session :=
  match database with
  | .ok database => { s with database }.tell (.ok answer)
  | .error e => s.tell (.error e)

/-- Makes a step. -/
def perform (s : Session) : Step → Response × Session
  | .historicalPrices symbol range date =>
    s.askCache .records fun e => e.historicalPrices s.database s.today symbol range date
  | .pricesOnDate symbol span date =>
    s.askCache .records fun e => e.pricesOnDate s.database symbol span date
  | .pricesOver symbol span =>
    s.askCache .records fun e => e.pricesOver s.database s.today symbol span
  | .prices symbol => s.askCache .records fun e => e.prices s.database s.today symbol
  | .listings => s.askCache .listings fun e => e.listings s.database
  | .lastTrades symbols => s.askCache .lastTrades fun e => e.lastTrades s.database symbols
  | .count symbol => s.tell ((s.database.count symbol).map .number)
  | .has key => s.tell ((s.database.has key).map .flag)
  | .find key => s.tell ((s.database.find? key).map .record)
  | .put record => s.withDatabase (s.database.put record) (.record (some record))
  | .exchangeOnDate symbol span date => s.askExchange fun e c => e.onDate c symbol span date
  | .exchangeOver symbol span => s.askExchange fun e c => e.overSpan c s.today symbol span
  | .exchangeStandard symbol => s.askExchange fun e c => e.standard c s.today symbol
  | .lookup key =>
    s.tell (((Faults.behind Database.store).lookup (s.faults, s.database) key).map .lookup)
  | .ghost key =>
    { s with faults := { s.faults with ghosts := s.faults.ghosts ++ [key] } }.tell (.ok .done)
  | .fault action key text =>
    { s with faults := { s.faults with
        failing := s.faults.failing ++ [((action, key), text)] } }.tell (.ok .done)
  | .heal => { s with faults := .none }.tell (.ok .done)
  | .script change => { s with scripts := change s.scripts }.tell (.ok .done)
  | .moveTo today => { s with today }.tell (.ok .done)
  | .reopen => s.withDatabase (Database.opened (.ok ()) s.database.contents) .done
  | .dropTable => { s with database := ⟨none⟩ }.tell (.ok .done)
  | .putRow cell? =>
    s.withDatabase (s.database.ask .counting fun table =>
      (Database.Row.ofCells cell?).map fun row => ⟨some (table.replace row)⟩) .done
  | .dump => s.tell (s.database.ask .counting fun table => .ok (.rows table.sorted))

/-- Makes steps one after another, each with the replies that the peer has for it. A step is answered
together with the number of rows that are stored after it, where there is a table. -/
def performAll : List (Step × List (Option Reply)) → Session → List (Response × Option Nat)
  | [], _ => []
  | (step, replies) :: rest, s =>
    let (response, s) := { s with peer := { s.peer with replies } }.perform step
    (response, s.database.table?.map (·.rows.length)) :: performAll rest s

end Session

end PriceHistory.Rehearsal
