import PriceHistory.Calendar.Date
import PriceHistory.Text.Blank
import PriceHistory.Text.Digits

/-!
The two written forms of a date. The canonical form is `2021-06-27`, the compact form `20210627`.
A year from 0 to 9999 has four digits; any other year has its sign and four digits at least.
-/
namespace PriceHistory.Calendar.Date

open PriceHistory.Text

/-- A year as both forms write it. -/
def yearText (year : Int) : List Char :=
  if 0 ≤ year ∧ year ≤ 9999 then padded 4 year.toNat
  else (if year < 0 then '-' else '+') :: padded 4 year.natAbs

/-- The canonical form. -/
def canonical (d : Date) : String :=
  String.ofList (yearText d.year ++ '-' :: padded 2 d.month ++ '-' :: padded 2 d.day)

/-- The compact form. -/
def compact (d : Date) : String :=
  String.ofList (yearText d.year ++ padded 2 d.month ++ padded 2 d.day)

/-- Reads a year: a sign and any number of digits, or up to four digits. -/
def readYear (cs : List Char) : Option (Int × List Char) :=
  match dropBlanks cs with
  | '-' :: rest => (number? rest.length rest).map fun (n, rest) => (-(n : Int), rest)
  | '+' :: rest => (number? rest.length rest).map fun (n, rest) => ((n : Int), rest)
  | rest => (number? 4 rest).map fun (n, rest) => ((n : Int), rest)

/-- Reads a month or a day: one or two digits. -/
def readPair (cs : List Char) : Option (Nat × List Char) :=
  number? 2 (dropBlanks cs)

/-- Reads the dash between two numbers. -/
def readDash : List Char → Option (List Char)
  | c :: rest => if c = '-' then some rest else none
  | [] => none

/-- Reads the canonical form, with fewer digits allowed and blanks in front of each number. -/
def ofCanonical? (s : String) : Option Date := do
  let (year, rest) ← readYear s.toList
  let rest ← readDash rest
  let (month, rest) ← readPair rest
  let rest ← readDash rest
  let (day, rest) ← readPair rest
  if rest = [] then of? year month day else none

/-- Reads the compact form: eight digits and nothing else. -/
def ofCompact? (s : String) : Option Date :=
  match s.toList with
  | [y1, y2, y3, y4, m1, m2, d1, d2] =>
    if [y1, y2, y3, y4, m1, m2, d1, d2].all Char.isDigit then
      of? (digitsValue [y1, y2, y3, y4]) (digitsValue [m1, m2]) (digitsValue [d1, d2])
    else none
  | _ => none

/-- Reads either form, the canonical one first. -/
def ofText? (s : String) : Option Date :=
  (ofCanonical? s).orElse fun _ => ofCompact? s

end PriceHistory.Calendar.Date
