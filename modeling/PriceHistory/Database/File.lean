import PriceHistory.Database.File.PriceTable
import PriceHistory.Database.Location

/-!
Files of databases as they are found, and what stands in the way of their use.
-/
namespace PriceHistory.Database

/-- What a write to the file at a path without detours meets. `known` says that the form of the file
is known well enough, and `sound` that a change of it can be ended. -/
def writing (path : String) (access : Access) (handling : Handling) (known sound : Bool) :
    Except FileFault Unit :=
  if access = .reading ∨ handling = .fixed ∨ !known then .error .readOnly
  else if !Location.leavesRoomForJournal path then .error .unopened
  else if Location.voidDevices.contains path then .error .disk
  else if path = Location.fullDevice then .error .full
  else if !sound then .error .malformed
  else .ok ()

/-- A failure to set a file to keep a log of its changes. -/
def orLogFault {α : Type} : Except FileFault α → Except Failure α
  | .ok value => .ok value
  | .error cause => .error (.database (.log cause))

/-- Opens the database in the bytes of a file that is there, at a path without detours. A file without
bytes holds nothing yet, and a single byte counts as nothing. The file is set to keep a log of its
changes where it can have one; one that has a log already cannot be used without. -/
def ofBytes? (path : String) (access : Access) (handling : Handling) (bytes : List UInt8) :
    Except Failure Database := do
  if bytes.length ≤ 1 then
    let writing := writing path access handling true true
    if handling = .logged then orLogFault writing
    opened writing .nothing
  else
    let file ← orLogFault (File.ofImage? ⟨bytes.toArray⟩)
    if handling = .unlogged ∧ file.logged then throw (.database (.log .unopened))
    let schema ← orLogFault (Schema.ofFile? file)
    let writing := writing path access handling file.writable file.canCommit
    if handling = .logged ∧ !file.logged then orLogFault writing
    opened writing (Contents.ofSchema file writing schema)

end PriceHistory.Database
