import PriceHistory.Program
import PriceHistory.Rehearsal.Peer

/-!
Runs of the program one after another, on a disk that lasts from run to run and with a scripted peer.
-/
namespace PriceHistory.Rehearsal

open PriceHistory.Calendar
open PriceHistory.Web (Reply)

/-- A disk, with its folders and its files, and the peer on the web. -/
structure Surroundings where
  folders : List String
  files : List (String × List UInt8)
  peer : Peer

namespace Surroundings

/-- A path parted at its last slash. A path without one is in the folder `.`. -/
def parted (path : String) : String × String :=
  let name := (path.toList.reverse.takeWhile (· ≠ '/')).reverse
  let folder := match (path.toList.take (path.toList.length - name.length)).reverse with
    | [] => "."
    | ['/'] => "/"
    | _ :: rest => String.ofList rest.reverse
  (folder, String.ofList name)

/-- What is found at a path. -/
def look (path : String) (s : Surroundings) : Found :=
  match s.files.lookup path with
  | some content => .bytes content
  | none =>
    let (folder, name) := parted path
    if s.folders.contains path then .folder
    else if name ≠ "" ∧ s.folders.contains folder then .missing
    else .unreachable

/-- The machine of a run. -/
def machine (environment : Environment) (today : Date) : Machine (StateM Surroundings) where
  environment := environment
  today := return today
  look path := return look path (← get)
  save path content := modify fun s => { s with files := (path, content) :: s.files }
  transport _ url := do
    let s ← get
    let (reply, peer) := Peer.receive url s.peer
    set { s with peer }
    return reply

/-- Runs the program, and returns how the run ends with the requests that the peer saw. -/
def run (environment : Environment) (today : Date) (replies : List (Option Reply))
    (arguments : List String) (s : Surroundings) : (Ending × List String) × Surroundings :=
  let (ending, s) := (Program.run (machine environment today) arguments).run
    { s with peer := { s.peer with replies, seen := [] } }
  ((ending, s.peer.seen), s)

/-- Opens a database as a run does, and says whether that fails. -/
def tryOpen (environment : Environment) (today : Date) (path : String) (s : Surroundings) :
    Except Failure Unit :=
  (((machine environment today).openDatabase path).run s).1.map fun _ => ()

end Surroundings

end PriceHistory.Rehearsal
