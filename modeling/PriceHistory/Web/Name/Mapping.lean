import PriceHistory.Text.Composition
import PriceHistory.Web.Name.MappingTable

/-!
The one form of the characters of a name: in lowercase, without variants and invisible characters,
and composed.
-/
namespace PriceHistory.Web.Name

open PriceHistory.Text

/-- The table of the characters that a name may be given in. -/
def permittedTable : CodeTable := .ofText permittedText

/-- The table of the characters that become others. -/
def mappingTable : CodeTable := .ofText mappingText

/-- What a character of a name becomes. -/
def mapChar? (c : Char) : Option (List Char) :=
  if permittedTable.holds c.toNat then
    some (((mappingTable.values? c.toNat).getD [c.toNat]).map Char.ofNat)
  else none

/-- The one form of a name. -/
def mapped? (cs : List Char) : Option (List Char) :=
  (cs.mapM mapChar?).map fun parts => compose parts.flatten

/-- Is a text in the one form that it has as a name? -/
def isMapped (cs : List Char) : Bool :=
  cs.all (fun c => permittedTable.holds c.toNat && !mappingTable.holds c.toNat) && compose cs == cs

end PriceHistory.Web.Name
