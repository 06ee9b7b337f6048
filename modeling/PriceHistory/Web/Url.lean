import PriceHistory.Web.Authority
import PriceHistory.Web.Form
import PriceHistory.Web.Path

/-!
Absolute URLs: their parts, their one written form, and reading one from a text. The text is cut at
its separators first, and each part is then read by itself.
-/
namespace PriceHistory.Web

/-- An absolute URL. Its parts hold their encoded form. -/
structure Url where
  scheme : String
  authority : Option Authority
  path : Path
  query : Option String
  fragment : Option String
  deriving DecidableEq

namespace Url

/-- The path as it is written. Without an authority two slashes must not open it. -/
def pathText (u : Url) : String :=
  if u.authority = none ∧ u.path.looksLikeHost then "/." ++ u.path.text else u.path.text

/-- The authority as it is written, with the slashes before it. -/
def authorityText (u : Url) : String :=
  match u.authority with
  | some a => "//" ++ a.text
  | none => ""

/-- The written form of a URL. -/
def text (u : Url) : String :=
  let query := match u.query with
    | some q => "?" ++ q
    | none => ""
  let fragment := match u.fragment with
    | some f => "#" ++ f
    | none => ""
  u.scheme ++ ":" ++ u.authorityText ++ u.pathText ++ query ++ fragment

/-- A text without the control characters and spaces at its ends, and without tabs and line ends. -/
def cleaned (cs : List Char) : List Char :=
  let outer (c : Char) : Bool := c.toNat ≤ 0x20
  let inner := (cs.dropWhile outer).reverse.dropWhile outer
  inner.reverse.filter fun c => c ≠ '\t' ∧ c ≠ '\n' ∧ c ≠ '\r'

/-- Reads a scheme and its colon. -/
def readScheme (cs : List Char) : Option (String × List Char) :=
  let name := cs.takeWhile fun c => c.isAlphanum || c == '+' || c == '-' || c == '.'
  match cs.head?, cs.drop name.length with
  | some first, ':' :: rest =>
    if first.isAlpha then some (String.ofList (name.map Char.toLower), rest) else none
  | _, _ => none

/-- A query in its encoded form. -/
def encodeQuery (scheme : String) (cs : List Char) : String :=
  String.ofList (percentEncode (querySet (isSpecial scheme)) cs)

/-- A fragment in its encoded form. -/
def encodeFragment (cs : List Char) : String :=
  String.ofList (percentEncode fragmentSet cs)

/-- A file on a host. A path with a drive drops the host. -/
def file (host : String) (parts : List String) : Authority × Path :=
  (.ofHost (if Path.hasDrive parts then "" else host), .ofFileSegments parts)

/-- Reads what follows the scheme of a file, up to the query. A drive in the place of the host
belongs to the path. -/
def readFile (cs : List Char) : Option (Authority × Path) :=
  match cs with
  | [] => some (file "" (Path.fileSegments []))
  | a :: rest =>
    match Path.isSlash true a, rest with
    | false, _ => some (file "" (Path.fileSegments (a :: rest)))
    | true, [] => some (file "" (Path.fileSegments []))
    | true, b :: rest =>
      if Path.isSlash true b then
        let (host, after) := rest.span (!Path.isSlash true ·)
        if (Path.drive? host).isSome then some (file "" (Path.fileSegments rest))
        else if host = [] then some (file "" (Path.fileSegments after))
        else do
          let name ← Host.ofWeb? host
          if name = "localhost" then return file "" (Path.fileSegments after)
          else return file name (Path.fileSegments (Path.afterSlash true after))
      else some (file "" (Path.fileSegments (b :: rest)))

/-- Reads what follows a scheme and its colon, up to the query. -/
def readBody (scheme : String) (cs : List Char) : Option (Option Authority × Path) :=
  if scheme = "file" then (readFile cs).map fun (authority, path) => (some authority, path)
  else if isSpecial scheme then do
    let (named, after) := (cs.dropWhile (Path.isSlash true)).span (!Path.isSlash true ·)
    let (authority, rest) ← Authority.read scheme named
    return (some authority, Path.read true (rest ++ after))
  else
    match cs with
    | '/' :: '/' :: cs => do
      let (named, after) := cs.span (· ≠ '/')
      let (authority, rest) ← Authority.read scheme named
      return (some authority, Path.read false (rest ++ after))
    | '/' :: _ => some (none, Path.read false cs)
    | _ => some (none, .unparted (String.ofList (percentEncode controlSet cs)))

/-- Reads an absolute URL. -/
def ofText? (s : String) : Option Url := do
  let (scheme, rest) ← readScheme (cleaned s.toList)
  let (rest, fragment) := cut '#' rest
  let (rest, query) := cut '?' rest
  let (authority, path) ← readBody scheme rest
  return {
    scheme, authority, path
    query := query.map (encodeQuery scheme)
    fragment := fragment.map encodeFragment }

/-- The host of a URL, where it names one. -/
def host? (u : Url) : Option String :=
  (u.authority.map (·.host)).filter (· ≠ "")

/-- The number of the service that a URL names. -/
def service? (u : Url) : Option Nat :=
  u.authority.bind (·.service)

/-- The URL without the user and the password that it names. They stay where they cannot be read:
where the user is no text, or is empty beside a password that is no text. -/
def withoutUser (u : Url) : Url :=
  { u with authority := u.authority.map fun a =>
      let readable (s : String) : Bool := (utf8Text? (percentDecode s.toList)).isSome
      if readable a.user && (a.user != "" || readable a.password) then
        { a with user := "", password := "" }
      else a }

/-- The URL with pairs appended to its query. An empty query is dropped. -/
def withPairs (u : Url) (pairs : List (String × String)) : Url :=
  let more := String.ofList (Form.encodePairs pairs)
  let old := u.query.getD ""
  let query := if old = "" then more else if pairs = [] then old else old ++ "&" ++ more
  { u with query := if query = "" then none else some query }

/-- Can a request for the URL be sent? Its scheme has to be that of the web, and some characters
that a host name may hold cannot be sent, nor can a URL of 65535 bytes or more. -/
def isSendable (u : Url) : Bool :=
  (u.scheme == "http" || u.scheme == "https") &&
    (u.host?.getD "").toList.all (fun c => c ≠ '"' ∧ c ≠ '\x60' ∧ c ≠ '\x7b' ∧ c ≠ '\x7d') &&
    u.text.utf8ByteSize < 65535

end Url

end PriceHistory.Web
