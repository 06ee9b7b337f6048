import PriceHistory.Web.Percent

/-!
Form encoding of name and value pairs: letters, digits and `*-._` stand for themselves, a space
becomes a plus, and all else is percent-encoded.
-/
namespace PriceHistory.Web.Form

/-- The characters that stand for themselves. -/
def isBare (c : Char) : Bool :=
  c.isAlphanum || c == '*' || c == '-' || c == '.' || c == '_'

/-- The encoded form of a character. -/
def encodeChar (c : Char) : List Char :=
  if c = ' ' then ['+'] else if isBare c then [c] else percentChar c

/-- The encoded form of a text. -/
def encode (s : String) : List Char :=
  s.toList.flatMap encodeChar

/-- The encoded form of a pair. -/
def encodePair (pair : String × String) : List Char :=
  encode pair.1 ++ '=' :: encode pair.2

/-- The encoded form of pairs, in their order. -/
def encodePairs (pairs : List (String × String)) : List Char :=
  ['&'].intercalate (pairs.map encodePair)

/-- Reads an encoded text, where its bytes are a text. -/
def decode? (cs : List Char) : Option String :=
  utf8Text? (percentDecode (cs.map fun c => if c = '+' then ' ' else c))

/-- Reads an encoded pair, parted at the first equals sign. -/
def decodePair? (cs : List Char) : Option (String × String) := do
  let name ← decode? (cs.takeWhile (· ≠ '='))
  let value ← decode? ((cs.dropWhile (· ≠ '=')).drop 1)
  return (name, value)

/-- Reads encoded pairs. -/
def decodePairs? (cs : List Char) : Option (List (String × String)) :=
  ((cs.splitOn '&').filter (· ≠ [])).mapM decodePair?

end PriceHistory.Web.Form
