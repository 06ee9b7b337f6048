/-!
Blank characters, as the Unicode property `White_Space` lists them, and trimming by them.
-/
namespace PriceHistory.Text

/-- The characters with the property `White_Space`. -/
def isBlank (c : Char) : Bool :=
  let n := c.toNat
  (0x09 ≤ n && n ≤ 0x0D) || n == 0x20 || n == 0x85 || n == 0xA0 || n == 0x1680 ||
    (0x2000 ≤ n && n ≤ 0x200A) || n == 0x2028 || n == 0x2029 || n == 0x202F || n == 0x205F ||
    n == 0x3000

/-- Drops the blanks at the front. -/
def dropBlanks (cs : List Char) : List Char :=
  cs.dropWhile isBlank

/-- A text without the blanks at its two ends. -/
def trim (s : String) : String :=
  String.ofList (dropBlanks (dropBlanks s.toList).reverse).reverse

/-- A text with nothing in it but blanks. -/
def Blank (s : String) : Prop :=
  ∀ c ∈ s.toList, isBlank c = true

-- Named, since there are instances that would go through all characters instead.
instance (s : String) : Decidable (Blank s) :=
  List.decidableBAll (isBlank · = true) s.toList

end PriceHistory.Text
