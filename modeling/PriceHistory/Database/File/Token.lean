import PriceHistory.Error

/-!
The words and marks of a statement. Blanks and remarks part them and are left out.
-/
namespace PriceHistory.Database

/-- A word or a mark of a statement. -/
structure Token where
  written : String
  /-- What it stands for, without quotes. -/
  name : String
  quoted : Bool
  /-- Can it stand in a statement at all? -/
  legal : Bool
  deriving DecidableEq

namespace Token

/-- Can a character stand in a word? -/
def isWordChar (c : Char) : Bool :=
  c.isAlphanum || c == '_' || c == '$' || 0x80 ≤ c.toNat

/-- The quote that ends a name which starts with a quote. -/
def closing? : Char → Option Char
  | '"' => some '"'
  | '\'' => some '\''
  | '\x60' => some '\x60'
  | '[' => some ']'
  | _ => none

/-- The marks that are no words. -/
def marks : List Char := "()],;.+-*/%=<>&|~?".toList

/-- The marks that begin the name of a value to be filled in. -/
def valueMarks : List Char := ['@', '#', ':', '$']

/-- Is a word that starts with a digit a number? -/
def isNumeral (word : List Char) : Bool :=
  word.all Char.isDigit ||
    match word with
    | '0' :: x :: rest =>
      (x == 'x' || x == 'X') && rest != [] &&
        rest.all fun c => c.isDigit || "abcdefABCDEF".toList.contains c
    | _ => false

/-- What stands within quotes, and what follows them if they are closed. A quote that is written twice
counts once. -/
def quotation (close : Char) : List Char → List Char × Option (List Char)
  | [] => ([], none)
  | [c] => if c = close then ([], some []) else ([c], none)
  | c :: d :: rest =>
    if c = close then
      if d = close ∧ close ≠ ']' then
        let (inner, after) := quotation close rest
        (close :: inner, after)
      else ([], some (d :: rest))
    else
      let (inner, after) := quotation close (d :: rest)
      (c :: inner, after)

/-- What follows a remark. -/
def afterRemark : List Char → List Char
  | '*' :: '/' :: rest => rest
  | _ :: rest => afterRemark rest
  | [] => []

/-- Reads the tokens of a text that is no longer than `fuel`. -/
def scan : (fuel : Nat) → List Char → List Token
  | fuel + 1, c :: rest =>
    let cs := c :: rest
    if c.isWhitespace ∨ c = '\x0C' then scan fuel rest
    else if cs.take 2 = ['-', '-'] then scan fuel (rest.dropWhile (· ≠ '\n'))
    else if cs.take 2 = ['/', '*'] then scan fuel (afterRemark (rest.drop 1))
    else
      match closing? c with
      | some close =>
        let (inner, after?) := quotation close rest
        let after := after?.getD []
        ⟨String.ofList (cs.take (cs.length - after.length)), String.ofList inner, true,
          after?.isSome⟩ :: scan fuel after
      | none =>
        let inner := rest.takeWhile isWordChar
        let word := if isWordChar c ∨ valueMarks.contains c then c :: inner else [c]
        let legal :=
          if valueMarks.contains c then inner != []
          else if c.isDigit then isNumeral word
          else isWordChar c || marks.contains c
        let text := String.ofList word
        ⟨text, text, false, legal⟩ :: scan fuel (cs.drop word.length)
  | _, _ => []

/-- The tokens of a text. -/
def ofText (text : String) : List Token := scan text.length text.toList

/-- Is a token a certain word or mark? The case of letters does not count. -/
def is (word : String) (token : Token) : Bool :=
  !token.quoted && token.written.toUpper == word

/-- The words that name nothing unless they are quoted. -/
def reserved : List String :=
  ["ADD", "ALL", "ALTER", "AND", "AS", "AUTOINCREMENT", "BETWEEN", "CASE", "CHECK", "COLLATE",
    "COMMIT", "CONSTRAINT", "CREATE", "DEFAULT", "DEFERRABLE", "DELETE", "DISTINCT", "DROP", "ELSE",
    "ESCAPE", "EXCEPT", "EXISTS", "FOREIGN", "FROM", "GROUP", "HAVING", "IN", "INDEX", "INSERT",
    "INTERSECT", "INTO", "IS", "ISNULL", "JOIN", "LIMIT", "NOT", "NOTHING", "NOTNULL", "NULL", "ON",
    "OR", "ORDER", "PRIMARY", "REFERENCES", "RETURNING", "SELECT", "SET", "TABLE", "THEN", "TO",
    "TRANSACTION", "UNION", "UNIQUE", "UPDATE", "USING", "VALUES", "WHEN", "WHERE"]

/-- Is a token a word, or something in quotes? -/
def isWord (token : Token) : Bool :=
  token.legal &&
    (token.quoted ||
      token.written.toList.head?.any fun c => isWordChar c && !c.isDigit && c != '$')

/-- Can a token name something? -/
def isName (token : Token) : Bool :=
  token.isWord && (token.quoted || !reserved.contains token.written.toUpper)

end Token

end PriceHistory.Database
