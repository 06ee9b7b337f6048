import Std.Async.DNS
import Std.Async.TCP
import Std.Time
import PriceHistory.Program

/-!
The command line program: the machine it runs on, and its exit. It speaks to plain web addresses; a
secret connection is never made, so a request for one stays without a reply.
-/
namespace PriceHistory.Main

open PriceHistory.Calendar
open PriceHistory.Web

/-- Today's date in universal time. -/
def today : IO Date := do
  let now ← Std.Time.Timestamp.now
  let day := Std.Time.PlainDate.ofEpochDay now.toDaysSinceUnixEpoch
  return (Date.of? day.year.toInt day.month.toNat day.day.toNat).getD Date.earliest

/-- The texts of the variables that are set. -/
def environment : IO Environment := do
  let given ← [Variable.database, .baseAddress, .token, .concurrency, .timeout].mapM fun key => do
    return (key, ← IO.getEnv key.name)
  return fun key => (given.lookup key).join

/-- The folder of a path. -/
def folder (path : String) : String :=
  let name := path.toList.reverse.takeWhile (· ≠ '/')
  match path.toList.take (path.toList.length - name.length) with
  | [] => "."
  | cs => String.ofList cs

/-- Looks what is at a path. -/
def look (path : String) : IO Found := do
  try
    return .bytes (← IO.FS.readBinFile path).toList
  catch
    | .noFileOrDirectory .. =>
      try
        discard (IO.FS.realPath (folder path))
        return .missing
      catch _ => return .unreachable
    | .inappropriateType .. =>
      try
        discard (IO.FS.realPath path)
        return .folder
      catch _ => return .unreachable
    | _ => return .unreachable

/-- Writes a file. -/
def save (path : String) (content : List UInt8) : IO Unit :=
  IO.FS.writeBinFile path ⟨content.toArray⟩

/-- Receives into `seen` until the other side is done. Tells whether the connection was closed in order. -/
partial def receive (socket : Std.Async.TCP.Socket.Client) (seen : IO.Ref ByteArray) :
    Std.Async.Async Bool := do
  try
    match ← socket.recv? 65536 with
    | some more =>
      seen.modify (· ++ more)
      receive socket seen
    | none => return true
  catch _ => return false

/-- An address with the number of a service. -/
def endpoint (service : Nat) : Std.Net.IPAddr → Std.Net.SocketAddress
  | .v4 address => .v4 ⟨address, service.toUInt16⟩
  | .v6 address => .v6 ⟨address, service.toUInt16⟩

/-- Puts a request to one address. -/
def converse (url : Url) (address : Std.Net.SocketAddress) (seen : IO.Ref ByteArray) :
    Std.Async.Async Bool := do
  let socket ← Std.Async.TCP.Socket.Client.mk
  socket.connect address
  socket.send (Message.request Client.agentName url).toUTF8
  receive socket seen

/-- Puts a request to the first address of its host that takes it. -/
def fetch (url : Url) (seen : IO.Ref ByteArray) : IO Bool := do
  let service := url.service?.getD 80
  let name := String.ofList ((url.host?.getD "").toList.filter fun c => c ≠ '[' ∧ c ≠ ']')
  let addresses ← (Std.Async.DNS.getAddrInfo name (toString service)).block
  for address in addresses do
    try
      return ← (converse url (endpoint service address) seen).block
    catch _ => continue
  return false

/-- Waits for a task until a moment on the clock of the machine. -/
partial def await {α : Type} (deadline : Nat) (task : Task (Except IO.Error α)) : IO (Option α) := do
  if ← IO.hasFinished task then return task.get.toOption
  if deadline ≤ (← IO.monoMsNow) then return none
  IO.sleep 5
  await deadline task

/-- The way to the web. What has come when the time is up counts as a connection that broke off. -/
def transport (seconds : Nat) : Transport IO := fun url => do
  if url.scheme = "http" then
    let deadline := (← IO.monoMsNow) + 1000 * seconds
    let seen ← IO.mkRef ByteArray.empty
    let closed ← await deadline (← IO.asTask (fetch url seen))
    return Reply.ofBytes? (← seen.get).toList (closed.getD false)
  else return none

/-- Runs the program on this machine. -/
def run (arguments : List String) : IO UInt32 := do
  let machine : Machine IO := ⟨← environment, today, look, save, transport⟩
  let ending ← Program.run machine arguments
  IO.print ending.output
  if let some problem := ending.problem then IO.eprintln problem
  return ending.exitCode.toUInt32

end PriceHistory.Main

def main (arguments : List String) : IO UInt32 :=
  PriceHistory.Main.run arguments
