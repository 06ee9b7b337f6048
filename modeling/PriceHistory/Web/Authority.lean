import PriceHistory.Text.Digits
import PriceHistory.Web.Host

/-!
The authority of a URL: a user with a password, a host, and the number of a service on the host.
-/
namespace PriceHistory.Web

open PriceHistory.Text

/-- The service number that a scheme of the web implies. -/
def impliedService? (scheme : String) : Option Nat :=
  match scheme with
  | "http" | "ws" => some 80
  | "https" | "wss" => some 443
  | "ftp" => some 21
  | _ => none

/-- The schemes whose URLs always have a host and a parted path. -/
def isSpecial (scheme : String) : Bool :=
  (impliedService? scheme).isSome || scheme == "file"

/-- An authority in its encoded form; `service` is left out where the scheme implies it. -/
structure Authority where
  user : String
  password : String
  host : String
  service : Option Nat
  deriving DecidableEq

/-- Parts a text at the first occurrence of a character. -/
def cut (mark : Char) (cs : List Char) : List Char × Option (List Char) :=
  match cs.dropWhile (· ≠ mark) with
  | [] => (cs, none)
  | _ :: rest => (cs.takeWhile (· ≠ mark), some rest)

namespace Authority

/-- The authority that is only a host. -/
def ofHost (host : String) : Authority := ⟨"", "", host, none⟩

/-- The user and the password as they are written before the host. -/
def userText (a : Authority) : String :=
  let password := if a.password = "" then "" else ":" ++ a.password
  if a.user = "" ∧ a.password = "" then "" else a.user ++ password ++ "@"

/-- The authority as it is written. -/
def text (a : Authority) : String :=
  let service := match a.service with
    | some n => ":" ++ toString n
    | none => ""
  a.userText ++ a.host ++ service

/-- Reads a service number. The one that the scheme implies is left out. -/
def readService (scheme : String) (cs : List Char) : Option (Option Nat) :=
  if cs = [] then some none
  else if cs.all Char.isDigit ∧ digitsValue cs < 1 <<< 16 then
    some (if impliedService? scheme = some (digitsValue cs) then none else some (digitsValue cs))
  else none

/-- The user and the password of what stands before the last `@`. -/
def readUser (cs : List Char) : String × String :=
  let (user, password) := cut ':' cs
  let encoded (cs : List Char) := String.ofList (percentEncode userSet cs)
  (encoded user, encoded (password.getD []))

/-- What stands before the last `@` and after it. -/
def cutUser (cs : List Char) : Option (List Char) × List Char :=
  if cs.contains '@' then
    let after := (cs.reverse.takeWhile (· ≠ '@')).reverse
    (some (cs.take (cs.length - after.length - 1)), after)
  else (none, cs)

/-- What stands before the colon of a service number, and what follows that colon. Colons within brackets
belong to the host. -/
def cutService (cs : List Char) : Option (List Char × Option (List Char)) :=
  match cs with
  | '[' :: _ =>
    let inside := cs.takeWhile (· ≠ ']')
    match cs.drop inside.length with
    | [] => some (cs, none)
    | _ :: [] => some (cs, none)
    | _ :: ':' :: service => some (inside ++ [']'], some service)
    | _ => none
  | _ => some (cut ':' cs)

/-- Reads an authority, and returns it with what is left for the path: a service number ends at a
backslash. An empty host has no user and no service, and no special scheme. -/
def read (scheme : String) (cs : List Char) : Option (Authority × List Char) := do
  let (given, afterUser) := cutUser cs
  let (host, service) ← cutService afterUser
  let (user, password) := readUser (given.getD [])
  let named := user != "" || password != "" || given == some [] || service.isSome
  if host.isEmpty && (isSpecial scheme || named) then none
  else
    let host ← if isSpecial scheme then Host.ofWeb? host else Host.ofOther? host
    let (service, rest) := (service.getD []).span (· ≠ '\\')
    return (⟨user, password, host, ← readService scheme service⟩, rest)

end Authority

end PriceHistory.Web
