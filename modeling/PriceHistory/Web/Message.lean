import PriceHistory.Text.Blank
import PriceHistory.Text.Digits
import PriceHistory.Web.Url

/-!
Messages of the web: the text of a request for a URL, and the reply that the bytes of a whole
connection hold.
-/
namespace PriceHistory.Web

open PriceHistory.Text

/-- The reply to a request. The body is missing where it ends early or is not put together as the headers
say. -/
structure Reply where
  status : Nat
  body : Option (List UInt8)
  deriving DecidableEq

namespace Message

/-- What a request asks the host for: the path and the query of the URL. -/
def target (u : Url) : String :=
  u.pathText ++ match u.query with
    | some query => "?" ++ query
    | none => ""

/-- The host that a request is meant for. -/
def hostText (u : Url) : String :=
  u.host?.getD "" ++ match u.service? with
    | some n => ":" ++ toString n
    | none => ""

/-- A request for a URL. The connection is closed after the reply. -/
def request (agent : String) (u : Url) : String :=
  "\r\n".intercalate
    ["GET " ++ target u ++ " HTTP/1.1", "accept: */*", "user-agent: " ++ agent,
      "host: " ++ hostText u, "connection: close", "", ""]

/-- The line at the front, without its end, and what follows it. -/
def cutLine (bs : List UInt8) : Option (List UInt8 × List UInt8) :=
  let line := bs.takeWhile (· ≠ 0x0A)
  match bs.drop line.length with
  | [] => none
  | _ :: rest => some (if line.getLast? = some 0x0D then line.dropLast else line, rest)

/-- The characters of bytes, one for each. -/
def characters (bs : List UInt8) : List Char :=
  bs.map fun b => Char.ofNat b.toNat

/-- The status that the first line of a reply tells. -/
def status? (line : List Char) : Option Nat :=
  match line with
  | 'H' :: 'T' :: 'T' :: 'P' :: '/' :: '1' :: '.' :: _ :: ' ' :: rest =>
    match number? 3 rest with
    | some (code, []) => some code
    | some (code, ' ' :: _) => some code
    | _ => none
  | _ => none

/-- A header, its name in lowercase. -/
def header? (line : List Char) : Option (String × String) :=
  let name := line.takeWhile (· ≠ ':')
  if name = [] ∨ name.length = line.length then none
  else
    some (String.ofList (name.map Char.toLower), trim (String.ofList (line.drop (name.length + 1))))

/-- Reads headers up to the empty line, with room for as many lines as `fuel` says. -/
def readHeaders : Nat → List UInt8 → Option (List (String × String) × List UInt8)
  | 0, _ => none
  | fuel + 1, bs => do
    let (line, rest) ← cutLine bs
    if line = [] then return ([], rest)
    let header ← header? (characters line)
    let (headers, rest) ← readHeaders fuel rest
    return (header :: headers, rest)

/-- The size of a chunk: hexadecimal digits, up to what else its line holds. -/
def chunkSize? (line : List Char) : Option Nat :=
  let digits := line.takeWhile fun c => (hexValue? c).isSome
  if digits = [] then none else digits.foldlM (fun n c => (hexValue? c).map (16 * n + ·)) 0

/-- Puts chunks together, up to an empty one. -/
def dechunk? : Nat → List UInt8 → Option (List UInt8)
  | 0, _ => none
  | fuel + 1, bs => do
    let (line, rest) ← cutLine bs
    let size ← chunkSize? (characters line)
    if size = 0 then return []
    if rest.length < size then none
    let (_, after) ← cutLine (rest.drop size)
    return rest.take size ++ (← dechunk? fuel after)

/-- The body that follows headers: in chunks, or of a stated length, or all up to the end of the connection.
A length that is no number makes no reply. -/
def body? (headers : List (String × String)) (bs : List UInt8) (closed : Bool) :
    Option (Option (List UInt8)) :=
  if (headers.lookup "transfer-encoding").any fun coding => coding.toLower == "chunked" then
    some (dechunk? (bs.length + 1) bs)
  else
    match headers.lookup "content-length" with
    | none => some (if closed then some bs else none)
    | some text =>
      match number? text.length text.toList with
      | some (n, []) => some (if bs.length < n then none else some (bs.take n))
      | _ => none

/-- Reads a reply behind those that are only provisional. -/
def readReply (closed : Bool) : Nat → List UInt8 → Option Reply
  | 0, _ => none
  | fuel + 1, bs => do
    let (line, rest) ← cutLine bs
    let status ← status? (characters line)
    let (headers, rest) ← readHeaders (rest.length + 1) rest
    if status < 200 then readReply closed fuel rest
    else
      let body ← if status = 204 ∨ status = 304 then some (some []) else body? headers rest closed
      return ⟨status, body⟩

end Message

/-- The reply that the bytes of a connection hold, which was closed in order or broke off behind them. -/
def Reply.ofBytes? (bs : List UInt8) (closed : Bool) : Option Reply :=
  Message.readReply closed (bs.length + 1) bs

end PriceHistory.Web
