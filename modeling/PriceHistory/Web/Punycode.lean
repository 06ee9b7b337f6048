/-!
Punycode: labels of host names that leave ASCII, written in ASCII. The ASCII characters come first,
and then, for each other character in ascending order, how far the decoder has to count on before
it inserts that character.
-/
namespace PriceHistory.Web

namespace Punycode

/-- A digit of a count: a letter, then a numeral. -/
def digit (n : Nat) : Char :=
  if n < 26 then Char.ofNat (0x61 + n) else Char.ofNat (0x30 + (n - 26))

/-- The number that the threshold of a place is measured against, halved until it is small. -/
def reduce (delta k : Nat) : Nat :=
  if h : 455 < delta then reduce (delta / 35) (k + 36) else k + 36 * delta / (delta + 38)
termination_by delta
decreasing_by omega

/-- The bias after a count `delta` has been written, with `points` characters handled so far. -/
def adapt (delta points : Nat) (first : Bool) : Nat :=
  let delta := if first then delta / 700 else delta / 2
  reduce (delta + delta / points) 0

/-- The threshold of a place. -/
def threshold (k bias : Nat) : Nat :=
  if k ≤ bias + 1 then 1 else if bias + 26 ≤ k then 26 else k - bias

/-- A count as digits, the smallest place first. -/
def count (q k bias : Nat) : List Char :=
  if h : threshold k bias ≤ q ∧ 1 ≤ threshold k bias ∧ threshold k bias < 36 then
    digit (threshold k bias + (q - threshold k bias) % (36 - threshold k bias)) ::
      count ((q - threshold k bias) / (36 - threshold k bias)) (k + 36) bias
  else [digit q]
termination_by q
decreasing_by
  have := Nat.div_le_self (q - threshold k bias) (36 - threshold k bias)
  omega

/-- The state of writing: the count so far, the bias, the characters handled, and the text. -/
structure State where
  delta : Nat
  bias : Nat
  handled : Nat
  text : List Char

/-- Goes once through all characters for the code point `n`. -/
def pass (n basic : Nat) (codes : List Nat) (state : State) : State :=
  codes.foldl (fun state c =>
    if c < n then { state with delta := state.delta + 1 }
    else if c = n then
      ⟨0, adapt state.delta (state.handled + 1) (state.handled = basic), state.handled + 1,
        state.text ++ count state.delta 36 state.bias⟩
    else state) state

/-- Writes the characters beyond ASCII, one code point after another in ascending order. -/
def writeAll (basic : Nat) (codes : List Nat) : List Nat → Nat → State → State
  | [], _, state => state
  | m :: rest, n, state =>
    let raised := { state with delta := state.delta + (m - n) * (state.handled + 1) }
    let passed := pass m basic codes raised
    writeAll basic codes rest (m + 1) { passed with delta := passed.delta + 1 }

/-- A label in Punycode. -/
def encode (label : List Char) : List Char :=
  let basic := label.filter (·.toNat < 0x80)
  let codes := label.map Char.toNat
  let others := ((codes.filter (0x80 ≤ ·)).mergeSort (· ≤ ·)).eraseReps
  let start := if basic = [] then [] else basic ++ ['-']
  (writeAll basic.length codes others 0x80 ⟨0, 72, basic.length, start⟩).text

/-- The value of a digit. -/
def digitValue? (c : Char) : Option Nat :=
  if 'a' ≤ c ∧ c ≤ 'z' then some (c.toNat - 0x61)
  else if '0' ≤ c ∧ c ≤ '9' then some (c.toNat - 0x30 + 26)
  else none

/-- Counts and the weights of their digits are below this number. -/
def countLimit : Nat := 1 <<< 32

/-- Puts a character into a text. -/
def insertAt (place : Nat) (c : Char) (text : List Char) : List Char :=
  text.take place ++ c :: text.drop place

/-- The state of reading: the text so far, the code point and the place that have been counted to,
the bias, and whether no character has been put in yet. -/
structure Reading where
  text : List Char
  code : Nat
  place : Nat
  bias : Nat
  first : Bool

/-- Puts in the character that a count leads to. -/
def Reading.insert? (r : Reading) (counted : Nat) : Option Reading :=
  let size := r.text.length + 1
  let code := r.code + counted / size
  let place := counted % size
  if code.isValidChar then
    some ⟨insertAt place (Char.ofNat code) r.text, code, place + 1,
      adapt (counted - r.place) size r.first, false⟩
  else none

/-- Reads counts, digit by digit. `counted`, `weight` and `k` belong to the count that is being read,
if one is. -/
def readCounts (r : Reading) (counted weight k : Nat) : List Char → Option (List Char)
  | [] => if k = 36 then some r.text else none
  | c :: rest => do
    let digit ← digitValue? c
    let counted := counted + digit * weight
    if countLimit ≤ counted then none
    else if digit < threshold k r.bias then
      let r ← r.insert? counted
      readCounts r r.place 1 36 rest
    else if countLimit ≤ weight * (36 - threshold k r.bias) then none
    else readCounts r counted (weight * (36 - threshold k r.bias)) (k + 36) rest

/-- Reads a label in Punycode. The last hyphen parts the ASCII characters from the counts, unless it
comes first. -/
def decode? (code : List Char) : Option (List Char) :=
  let counts := (code.reverse.takeWhile (· ≠ '-')).reverse
  let basic := code.take (code.length - counts.length - 1)
  let counts := if basic.isEmpty then code else counts
  if basic.all (·.toNat < 0x80) then readCounts ⟨basic, 0x80, 0, 72, true⟩ 0 1 36 counts else none

end Punycode

end PriceHistory.Web
