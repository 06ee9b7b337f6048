import PriceHistory.Text.Uppercase

/-!
Ticker symbols in the one form under which prices are filed.
-/
namespace PriceHistory

/-- A ticker symbol in uppercase. -/
structure Symbol where
  text : String
  upper_text : Text.upper text = text
  deriving DecidableEq

namespace Symbol

/-- The symbol that a text names, whatever its case. -/
def of (text : String) : Symbol :=
  ⟨Text.upper text, Text.upper_upper text⟩

@[simp] theorem of_text (s : Symbol) : of s.text = s := by
  cases s
  simp_all [of]

@[simp] theorem of_upper (text : String) : of (Text.upper text) = of text := by
  simp [of]

end Symbol

end PriceHistory
