import PriceHistory.Web.Percent
import PriceHistory.Web.Name.Basic
import PriceHistory.Text.Digits

/-!
Hosts of URLs, in the one form in which they are written: names in lowercase, IPv4 addresses as
four numbers, IPv6 addresses in brackets with the longest run of zeros left out.
-/
namespace PriceHistory.Web.Host

open PriceHistory.Text

/-- Characters that no host may hold. -/
def isForbidden (c : Char) : Bool :=
  c.toNat == 0 || c == '\t' || c == '\n' || c == '\r' || c == ' ' || c == '#' || c == '/' ||
    c == ':' || c == '<' || c == '>' || c == '?' || c == '@' || c == '[' || c == '\\' ||
    c == ']' || c == '^' || c == '|'

/-- Characters that no name may hold. -/
def isForbiddenInName (c : Char) : Bool :=
  isForbidden c || c.toNat < 0x20 || c == '%' || c.toNat == 0x7F

/-- The value of digits in a base. -/
def number? (base : Nat) (ds : List Char) : Option Nat :=
  ds.foldlM (fun n c => do
    let d ← hexValue? c
    if d < base then some (base * n + d) else none) 0

/-- A part of an IPv4 address: hexadecimal after `0x`, octal after `0`, else decimal. -/
def ipv4Part? : List Char → Option Nat
  | [] => none
  | '0' :: 'x' :: ds | '0' :: 'X' :: ds => number? 16 ds
  | '0' :: ds => number? 8 ds
  | ds => number? 10 ds

/-- The parts of a dotted name, without an empty one at the end. -/
def dottedParts (cs : List Char) : List (List Char) :=
  let parts := cs.splitOn '.'
  if parts.length > 1 ∧ parts.getLast? = some [] then parts.dropLast else parts

/-- Does a name end in a number, so that it has to be an IPv4 address? -/
def endsInNumber (cs : List Char) : Bool :=
  match (dottedParts cs).getLast? with
  | none | some [] => false
  | some part => part.all Char.isDigit || (ipv4Part? part).isSome

/-- The number of an IPv4 address: each part but the last is one byte, and the last one fills the
bytes that are left. -/
def ipv4? (cs : List Char) : Option Nat := do
  let numbers ← (dottedParts cs).mapM ipv4Part?
  let last ← numbers.getLast?
  let front := numbers.dropLast
  if 4 < numbers.length ∨ front.any (255 < ·) ∨ 1 <<< (8 * (4 - front.length)) ≤ last then none
  else some (front.zipIdx.foldl (fun total (n, i) => total + n <<< (8 * (3 - i))) last)

/-- An IPv4 address as four numbers. -/
def ipv4Text (n : Nat) : List Char :=
  ['.'].intercalate ([n >>> 24, n >>> 16 % 256, n >>> 8 % 256, n % 256].map (Nat.toDigits 10))

/-- The two groups that four dotted decimal numbers stand for at the end of an IPv6 address. -/
def embeddedIpv4? (cs : List Char) : Option (List Nat) :=
  match cs.splitOn '.' with
  | [a, b, c, d] => do
    let bytes ← [a, b, c, d].mapM fun ds =>
      if ds = [] ∨ (ds.length > 1 ∧ ds.head? = some '0') then none
      else (number? 10 ds).filter (· ≤ 255)
    match bytes with
    | [a, b, c, d] => some [256 * a + b, 256 * c + d]
    | _ => none
  | _ => none

/-- A group of an IPv6 address: up to four hexadecimal digits. -/
def ipv6Group? (ds : List Char) : Option Nat :=
  if ds = [] ∨ 4 < ds.length then none else number? 16 ds

/-- The groups of one side of an IPv6 address. The last group of the whole address may be an IPv4
address. -/
def ipv6Groups? (atEnd : Bool) (cs : List Char) : Option (List Nat) :=
  if cs = [] then some []
  else
    let parts := cs.splitOn ':'
    match parts.getLast? with
    | none => none
    | some last => do
      let front ← parts.dropLast.mapM ipv6Group?
      let back ← if atEnd && last.contains '.' then embeddedIpv4? last
        else (ipv6Group? last).map ([·])
      return front ++ back

/-- Parts a text at the first double colon. -/
def cutDoubleColon : List Char → Option (List Char × List Char)
  | ':' :: ':' :: rest => some ([], rest)
  | c :: rest => (cutDoubleColon rest).map fun (front, back) => (c :: front, back)
  | [] => none

/-- The eight groups of an IPv6 address. -/
def ipv6? (cs : List Char) : Option (List Nat) :=
  match cutDoubleColon cs with
  | none => (ipv6Groups? true cs).filter (·.length = 8)
  | some (front, back) => do
    let front ← ipv6Groups? false front
    let back ← ipv6Groups? true back
    if front.length + back.length ≤ 7 then
      some (front ++ List.replicate (8 - front.length - back.length) 0 ++ back)
    else none

/-- The first of the longest runs of zeros, as its place and its length. -/
def longestZeros (groups : List Nat) : Nat × Nat :=
  (List.range groups.length).foldl (fun best i =>
    let length := ((groups.drop i).takeWhile (· = 0)).length
    if best.2 < length then (i, length) else best) (0, 0)

/-- An IPv6 address. A run of two zeros or more is left out. -/
def ipv6Text (groups : List Nat) : List Char :=
  let colons (groups : List Nat) := [':'].intercalate (groups.map (Nat.toDigits 16))
  let (start, length) := longestZeros groups
  if length < 2 then colons groups
  else colons (groups.take start) ++ ':' :: ':' :: colons (groups.drop (start + length))

/-- Reads the host of a web URL. -/
def ofWeb? (cs : List Char) : Option String :=
  match cs with
  | '[' :: rest =>
    if rest.getLast? = some ']' then
      (ipv6? rest.dropLast).map fun groups => String.ofList ('[' :: ipv6Text groups ++ [']'])
    else none
  | cs => do
    let decoded ← utf8Text? (percentDecode cs)
    let name ← Name.written? decoded.toList
    if name = [] ∨ name.any isForbiddenInName then none
    else if endsInNumber name then (ipv4? name).map fun n => String.ofList (ipv4Text n)
    else some (String.ofList name)

/-- Reads the host of any other URL, which may be empty. -/
def ofOther? (cs : List Char) : Option String :=
  match cs with
  | '[' :: _ => ofWeb? cs
  | cs => if cs.any isForbidden then none else some (String.ofList (percentEncode controlSet cs))

end PriceHistory.Web.Host
