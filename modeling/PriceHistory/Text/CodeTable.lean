/-!
Tables of code points, written down as text. A table is a text of rows with blanks between them, and
each row starts with a code point in hexadecimal digits, or with two that bound a run:

* `A-B` are members, and so is `A`; they have no values.
* `A-B=V.W` all have the values `V` and `W`, and so has `A=V.W`.
* `A-B+V` move by one distance, `A` to `V`; in `A-B*V` only every second code point does.
* `A:V,W.X` lists the values of consecutive code points from `A` on.
-/
namespace PriceHistory.Text

/-- A row of a table. -/
inductive CodeRow where
  | alike (first last : Nat) (values : List Nat)
  | moved (first last step target : Nat)
  | listed (first : Nat) (values : List (List Nat))

namespace CodeRow

/-- The values of a code point in a row that holds it. -/
def values? (n : Nat) : CodeRow → Option (List Nat)
  | alike first last values => if first ≤ n ∧ n ≤ last then some values else none
  | moved first last step target =>
    if first ≤ n ∧ n ≤ last ∧ (n - first) % step = 0 then some [target + (n - first)] else none
  | listed first values => if first ≤ n then values[n - first]? else none

/-- The code points of a row with their values. -/
def entries : CodeRow → List (Nat × List Nat)
  | alike first last values => (List.range' first (last + 1 - first)).map fun n => (n, values)
  | moved first last step target =>
    (List.range' first ((last - first) / step + 1) step).map fun n => (n, [target + (n - first)])
  | listed first values => values.zipIdx first |>.map fun (values, n) => (n, values)

/-- Is this a hexadecimal digit in uppercase? -/
def isDigit (c : Char) : Bool :=
  c.isDigit || 'A' ≤ c && c ≤ 'F'

/-- The number of hexadecimal digits. -/
def number (ds : List Char) : Nat :=
  ds.foldl (fun n c => 16 * n + if c.isDigit then c.toNat - 0x30 else c.toNat - 0x37) 0

/-- The values that stand between points. -/
def readValues (cs : List Char) : List Nat :=
  if cs = [] then [] else (cs.splitOn '.').map number

/-- Reads what follows the bounds of a run. -/
def readRun (first last : Nat) : List Char → CodeRow
  | '=' :: values => alike first last (readValues values)
  | '+' :: target => moved first last 1 (number target)
  | '*' :: target => moved first last 2 (number target)
  | _ => alike first last []

/-- Reads a row. -/
def ofText (cs : List Char) : CodeRow :=
  let (first, rest) := cs.span isDigit
  match rest with
  | '-' :: rest =>
    let (last, rest) := rest.span isDigit
    readRun (number first) (number last) rest
  | ':' :: values => listed (number first) ((values.splitOn ',').map readValues)
  | rest => readRun (number first) (number first) rest

end CodeRow

/-- A table of code points. -/
abbrev CodeTable := List CodeRow

namespace CodeTable

/-- Reads a table. -/
def ofText (s : String) : CodeTable :=
  ((s.toList.splitOnP fun c => c == ' ' || c == '\n').filter (· ≠ [])).map CodeRow.ofText

/-- The values of a code point; there are none where the table does not hold it. -/
def values? (table : CodeTable) (n : Nat) : Option (List Nat) :=
  table.findSome? (·.values? n)

/-- All code points of a table with their values. -/
def entries (table : CodeTable) : List (Nat × List Nat) :=
  table.flatMap CodeRow.entries

/-- Does the table hold a code point? -/
def holds (table : CodeTable) (n : Nat) : Bool :=
  (table.values? n).isSome

end CodeTable

end PriceHistory.Text
