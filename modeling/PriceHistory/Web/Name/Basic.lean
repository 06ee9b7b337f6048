import PriceHistory.Text.Direction
import PriceHistory.Text.Joining
import PriceHistory.Text.Mark
import PriceHistory.Web.Name.Mapping
import PriceHistory.Web.Punycode

/-!
Names of hosts. A name is a row of labels with points between them; a label that leaves ASCII is
written in Punycode after `xn--`, and one that is given so has to stand for a label that would be
written in the same way.
-/
namespace PriceHistory.Web.Name

open PriceHistory.Text

/-- A label: as it is shown, and as it is written in ASCII. -/
structure Label where
  shown : List Char
  written : List Char

namespace Label

/-- What a label in Punycode starts with. -/
def codePrefix : List Char := ['x', 'n', '-', '-']

/-- The longest label that is put into Punycode. -/
def shownLimit : Nat := 1000

/-- The longest Punycode that is read. -/
def codeLimit : Nat := 2000

/-- Does a text consist of ASCII characters? -/
def isAscii (cs : List Char) : Bool :=
  cs.all (·.toNat < 0x80)

/-- May a label be shown like this? It does not start with a mark, and what joins its characters
stands where it has a meaning. -/
def isShowable (cs : List Char) : Bool :=
  !cs.head?.any isMark && joinersFit [] cs

/-- The label of a text in its one form. -/
def of? (cs : List Char) : Option Label :=
  if codePrefix.isPrefixOf cs then do
    let code := cs.drop codePrefix.length
    let shown ← if codeLimit < code.length then none else Punycode.decode? code
    if !isAscii shown && isMapped shown && isShowable shown then some ⟨shown, cs⟩ else none
  else if isAscii cs then some ⟨cs, cs⟩
  else if isShowable cs && cs.length ≤ shownLimit then
    some ⟨cs, codePrefix ++ Punycode.encode cs⟩
  else none

end Label

/-- The labels of a name. -/
def labels (cs : List Char) : List (List Char) :=
  cs.splitOn '.'

/-- Is every label plain: ASCII, and not in Punycode? -/
def isPlain (cs : List Char) : Bool :=
  Label.isAscii cs &&
    (labels cs).all fun label => !Label.codePrefix.isPrefixOf (label.map Char.toLower)

/-- May labels with these directions stand in one name? -/
def areOrdered (directions : List (List Direction)) : Bool :=
  !directions.any Direction.isMixed || directions.all Direction.isOrdered

/-- The written form of a name. A plain one is only put into lowercase. -/
def written? (cs : List Char) : Option (List Char) :=
  if isPlain cs then some (cs.map Char.toLower)
  else do
    let found ← (labels (← mapped? cs)).mapM Label.of?
    if areOrdered (found.map fun label => label.shown.map Direction.of) then
      some (['.'].intercalate (found.map (·.written)))
    else none

end PriceHistory.Web.Name
