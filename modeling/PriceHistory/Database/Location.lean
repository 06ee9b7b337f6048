import PriceHistory.Error
import PriceHistory.Web.Percent

/-!
Where a database is kept. A path may be given as a URI with the scheme `file`, whose query may say
how the file is to be used.
-/
namespace PriceHistory.Database

open PriceHistory.Web

/-- What a database is opened for. -/
inductive Access where
  | reading
  /-- To be read and written where it is there. -/
  | writing
  /-- To be read and written, and made where it is not there. -/
  | making
  /-- To be kept in memory, whatever its path. -/
  | passing
  deriving DecidableEq

namespace Access

/-- The access that a word names. -/
def ofWord? : String → Option Access
  | "ro" => some reading
  | "rw" => some writing
  | "rwc" => some making
  | "memory" => some passing
  | _ => none

/-- May a URI that asked for one access ask for another after it? It may not ask for more. -/
def allows : Access → Access → Bool
  | reading, asked => asked == reading || asked == passing
  | writing, asked => asked != making
  | making, _ => true
  | passing, _ => true

end Access

/-- How changes of a file are kept safe. -/
inductive Handling where
  /-- In a log beside it. -/
  | logged
  /-- Without a log, where there are no locks to share one by. -/
  | unlogged
  /-- It is taken never to change. -/
  | fixed
  deriving DecidableEq

/-- Where a database is kept. -/
inductive Location where
  /-- In memory, or in a file that goes away. -/
  | passing (writable : Bool)
  | file (path : String) (access : Access) (handling : Handling)
  deriving DecidableEq

namespace Location

/-- The path that stands for memory. -/
def memoryPath : String := ":memory:"

/-- The file system that keeps its files in memory. -/
def memorySystem : String := "memdb"

/-- The file systems without a log. -/
def unloggedSystems : List String := ["unix-none", "unix-dotfile"]

/-- The file systems that a query may name. -/
def fileSystems : List String := ["unix", "unix-excl", memorySystem] ++ unloggedSystems

/-- The devices that keep nothing of what is written to them. As files they are empty. -/
def voidDevices : List String := ["/dev/null", "/dev/zero", "/dev/random", "/dev/urandom"]

/-- The device that has no room for anything. As a file it is empty. -/
def fullDevice : String := "/dev/full"

/-- Does a path without detours lead to one of these devices? -/
def isDevice (path : String) : Bool :=
  path == fullDevice || voidDevices.contains path

/-- The folders in which the system shows its own state, and nothing can be made. -/
def systemFolders : List String := ["/proc/", "/sys/"]

/-- The longest path from the root, in bytes. It leaves room for the ending of a journal. -/
def pathLimit : Nat := 504

/-- The longest name of a file or folder, in bytes. -/
def nameLimit : Nat := 255

/-- The ending of the name of the journal beside a file. -/
def journalEnding : String := "-journal"

/-- The names in a path. -/
def names (path : String) : List String :=
  (path.toList.splitOn '/').map String.ofList

/-- Takes one more name of a path. A point stays, and two points undo the last name; those at the
start of a relative path are kept, and those at the root stay there. The names are held last first. -/
def follow (rooted : Bool) (taken : List String) (name : String) : List String :=
  if name = "" ∨ name = "." then taken
  else if name = ".." then
    match taken with
    | [] => if rooted then [] else [name]
    | last :: before => if last = ".." then name :: taken else before
  else name :: taken

/-- A path without the names that lead nowhere. -/
def resolved (path : String) : String :=
  let rooted := path.startsWith "/"
  let taken := "/".intercalate ((names path).foldl (follow rooted) []).reverse
  if rooted then "/" ++ taken else if taken = "" then "." else taken

/-- Can a file be at a path? The path leads beyond the root, and its length and the lengths of the
names in it keep within the limits. -/
def canHoldFile (path : String) : Bool :=
  resolved path != "/" && (resolved path).utf8ByteSize ≤ pathLimit &&
    (names path).all fun name => name.utf8ByteSize ≤ nameLimit

/-- Can a file be made at a path without detours? -/
def takesFiles (path : String) : Bool :=
  !systemFolders.any fun folder => path.startsWith folder

/-- May a journal lie beside the file at a path without detours? -/
def leavesRoomForJournal (path : String) : Bool :=
  takesFiles path &&
    (names path).all fun name => (name ++ journalEnding).utf8ByteSize ≤ nameLimit

/-- A part of a URI with its escapes undone, up to a character zero. -/
def decoded (cs : List Char) : String :=
  (utf8Text? ((percentDecode cs).takeWhile (· ≠ 0))).getD (String.ofList cs)

/-- The named values of a query. Those without a name are left out. -/
def parameters (query : List Char) : List (String × String) :=
  ((query.splitOn '&').map fun cs =>
    (decoded (cs.takeWhile (· ≠ '=')), decoded ((cs.dropWhile (· ≠ '=')).drop 1))).filter
    fun (name, _) => name ≠ ""

/-- Takes one parameter of a query into account. -/
def withParameter (access : Access) : String × String → Except PathFault Access
  | ("mode", word) =>
    match Access.ofWord? word with
    | none => .error (.accessMode word)
    | some asked => if access.allows asked then .ok asked else .error (.forbiddenMode word)
  | ("cache", word) =>
    if word = "shared" ∨ word = "private" then .ok access else .error (.cacheMode word)
  | _ => .ok access

/-- Does the value of a parameter say yes? A number says so unless its lowest byte is zero. -/
def affirms (value : String) : Bool :=
  let digits := value.toList.takeWhile Char.isDigit
  if digits = [] then ["on", "yes", "true"].contains value.toLower
  else
    let n := Nat.ofDigitChars 10 digits 0
    n < 0x80000000 && n % 256 != 0

/-- The location of a path that is opened for an access, with the parameters of its URI. -/
def placed (path : String) (access : Access) (parameters : List (String × String)) :
    Except PathFault Location :=
  let affirmed (name : String) : Bool := (parameters.lookup name).any affirms
  let system := parameters.reverse.lookup "vfs"
  let handling : Handling :=
    if affirmed "immutable" then .fixed
    else if affirmed "nolock" ∨ system.any unloggedSystems.contains then .unlogged
    else .logged
  match system.filter fun name => !fileSystems.contains name with
  | some name => .error (.fileSystem name)
  | none =>
    .ok (if access = .passing then passing true
      else if path = "" ∨ path = memoryPath then passing (access ≠ .reading)
      else if system = some memorySystem then passing (access ≠ .reading ∧ handling ≠ .fixed)
      else file path access handling)

/-- What follows the machine that a URI names, which has to be this one. -/
def afterAuthority (cs : List Char) : Except PathFault (List Char) :=
  match cs with
  | '/' :: '/' :: rest =>
    let authority := String.ofList (rest.takeWhile (· ≠ '/'))
    if authority = "" ∨ authority = "localhost" then .ok (rest.dropWhile (· ≠ '/'))
    else .error (.authority authority)
  | cs => .ok cs

/-- The location of a URI, without its scheme. Of several accesses it asks for, the last counts. -/
def ofUri? (cs : List Char) : Except PathFault Location := do
  let body := (← afterAuthority cs).takeWhile (· ≠ '#')
  let parameters := parameters ((body.dropWhile (· ≠ '?')).drop 1)
  let access ← parameters.foldlM withParameter .making
  placed (decoded (body.takeWhile (· ≠ '?'))) access parameters

/-- The location of a path. -/
def ofPath? (path : String) : Except PathFault Location :=
  if path.toList.contains '\x00' then
    .error (.zeroByte (String.ofList (path.toList.takeWhile (· ≠ '\x00'))).utf8ByteSize)
  else
    match path.toList with
    | 'f' :: 'i' :: 'l' :: 'e' :: ':' :: rest => ofUri? rest
    | _ => placed path .making []

end Location

end PriceHistory.Database
