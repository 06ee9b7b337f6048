import PriceHistory.Text.Composition.Table

/-!
The composed form of a text: letters and the marks on them are one character wherever there is one
for both. A text is taken apart first, its marks are put into the order of their classes, and then
it is put together again, so that texts that look the same become the same.
-/
namespace PriceHistory.Text

/-- The table of composed characters. -/
def composedTable : CodeTable := .ofText composedText

/-- The composed characters with their parts. -/
def composedEntries : List (Nat × List Nat) := composedTable.entries

/-- The table of combining classes. -/
def classTable : CodeTable := .ofText classText

/-- The combining class of a code point. Marks of different classes do not disturb each other, and
zero is the class of what stands by itself. -/
def combiningClass (n : Nat) : Nat :=
  ((classTable.values? n).bind List.head?).getD 0

namespace Hangul

/-- The first syllable. -/
def firstSyllable : Nat := 0xAC00

/-- The first consonant of a syllable's beginning. -/
def firstLead : Nat := 0x1100

/-- The first vowel. -/
def firstVowel : Nat := 0x1161

/-- One before the first consonant of a syllable's end. -/
def beforeTail : Nat := 0x11A7

/-- The number of vowels. -/
def vowels : Nat := 21

/-- The number of ends of a syllable, none at all among them. -/
def tails : Nat := 28

/-- The number of syllables. -/
def syllables : Nat := 19 * vowels * tails

/-- The parts of a syllable. -/
def parts? (n : Nat) : Option (List Nat) :=
  if firstSyllable ≤ n ∧ n < firstSyllable + syllables then
    let i := n - firstSyllable
    let tail := if i % tails = 0 then [] else [beforeTail + i % tails]
    some ((firstLead + i / (vowels * tails)) :: (firstVowel + i / tails % vowels) :: tail)
  else none

/-- The syllable of two parts: of a consonant and a vowel, or of both and another consonant. -/
def syllable? (a b : Nat) : Option Nat :=
  if firstLead ≤ a ∧ a < firstLead + 19 ∧ firstVowel ≤ b ∧ b < firstVowel + vowels then
    some (firstSyllable + ((a - firstLead) * vowels + (b - firstVowel)) * tails)
  else if firstSyllable ≤ a ∧ a < firstSyllable + syllables ∧ (a - firstSyllable) % tails = 0 ∧
      beforeTail < b ∧ b < beforeTail + tails then
    some (a + (b - beforeTail))
  else none

end Hangul

/-- The parts of a code point; one that is not composed is its own part. -/
def partsOf (n : Nat) : List Nat :=
  ((Hangul.parts? n).or (composedTable.values? n)).getD [n]

/-- How often parts can have parts again. -/
def partsDepth : Nat := 4

/-- Takes a text apart, down to parts that are not composed. -/
def decompose (codes : List Nat) : List Nat :=
  (List.range partsDepth).foldl (fun codes _ => codes.flatMap partsOf) codes

/-- Puts a mark in front of ordered marks, behind those of a lower class. -/
def insertMark (mark : Nat) : List Nat → List Nat
  | [] => [mark]
  | c :: rest =>
    if combiningClass c ≠ 0 ∧ combiningClass c < combiningClass mark then c :: insertMark mark rest
    else mark :: c :: rest

/-- Puts the marks on each letter into the order of their classes. -/
def orderMarks (codes : List Nat) : List Nat :=
  codes.foldr insertMark []

/-- The composed character of two parts. -/
def composePair? (a b : Nat) : Option Nat :=
  (Hangul.syllable? a b).or ((composedEntries.find? fun entry => entry.2 == [a, b]).map (·.1))

/-- Composes a letter with what follows it. `between` are the marks that stay beside it, and a mark
of the class of the last of them cannot get past it. -/
def composeFrom (letter : Nat) (between : List Nat) : List Nat → List Nat
  | [] => letter :: between
  | c :: rest =>
    let blocked := between.getLast?.any fun last => combiningClass c ≤ combiningClass last
    match if blocked then none else composePair? letter c with
    | some composed => composeFrom composed between rest
    | none =>
      if combiningClass c = 0 then letter :: between ++ composeFrom c [] rest
      else composeFrom letter (between ++ [c]) rest

/-- Puts a text together. Marks before its first letter stay as they are. -/
def recompose : List Nat → List Nat
  | [] => []
  | c :: rest => if combiningClass c = 0 then composeFrom c [] rest else c :: recompose rest

/-- The composed form of a text. -/
def compose (cs : List Char) : List Char :=
  (recompose (orderMarks (decompose (cs.map Char.toNat)))).map Char.ofNat

end PriceHistory.Text
