import PriceHistory.Database.File.Token

/-!
The statements in a schema, each of which makes a table, an index, a view or a trigger. Of a table,
its columns and the indexes that its own conditions call for are read. A statement is refused at the
first word that cannot follow, as far as it is read.
-/
namespace PriceHistory.Database

/-- A column of a table. -/
structure ColumnForm where
  name : String
  collation : Option String
  deriving DecidableEq

/-- What a statement tells of a table. -/
structure TableBody where
  columns : List ColumnForm
  /-- The number of indexes that it needs for its own conditions. -/
  ownIndexes : Nat
  /-- Are its rows numbered? Others are kept like the keys of an index. -/
  numbered : Bool
  deriving DecidableEq

/-- What a statement makes. -/
inductive Statement where
  /-- A table, whose name is known even where the rest of the statement cannot be read. -/
  | table (name : String) (body : Except StatementFault TableBody)
  | index (name table : String)
  | view (name : String)
  | trigger (name table : String)
  /-- Something of no account here. -/
  | other

namespace Statement

/-- Refuses what is left of a statement. -/
def refuse {α : Type} : List Token → Except StatementFault α
  | [] => .error .incomplete
  | token :: _ => .error (if token.legal then .near token.written else .unrecognized token.written)

/-- Reads one word or mark. -/
def expect (word : String) : List Token → Except StatementFault (List Token)
  | [] => refuse []
  | token :: rest => if token.is word then .ok rest else refuse (token :: rest)

/-- Reads a name. -/
def expectName : List Token → Except StatementFault (String × List Token)
  | [] => refuse []
  | token :: rest => if token.isName then .ok (token.name, rest) else refuse (token :: rest)

/-- Reads the name of what is made. It has no name of a database before it. -/
def expectNewName (tokens : List Token) : Except StatementFault (String × List Token) := do
  let (name, rest) ← expectName tokens
  if rest.head?.any (Token.is ".") then throw .elsewhere
  return (name, rest)

/-- Leaves out words that may stand before a name. -/
def skip (words : List String) (tokens : List Token) : List Token :=
  let pairs := tokens.zip words
  if pairs.length = words.length ∧ pairs.all fun (token, word) => token.is word then
    tokens.drop words.length
  else tokens

/-- Reads the parts of a list in brackets, up to the bracket that closes it. Commas within further
brackets part nothing. The tokens of the part under way are held last first. -/
def parts : (depth : Nat) → (part : List Token) → List Token →
    Except StatementFault (List (List Token) × List Token)
  | _, _, [] => refuse []
  | depth, part, token :: rest =>
    if !token.legal then refuse (token :: rest)
    else if token.is "(" then parts (depth + 1) (token :: part) rest
    else if token.is ")" then
      match depth with
      | 0 => if part = [] then refuse (token :: rest) else .ok ([part.reverse], rest)
      | depth + 1 => parts depth (token :: part) rest
    else if token.is "," ∧ depth = 0 then
      if part = [] then refuse (token :: rest)
      else (parts 0 [] rest).map fun (more, rest) => (part.reverse :: more, rest)
    else parts depth (token :: part) rest

/-- The words that begin a condition on a whole table. -/
def conditionWords : List String := ["CONSTRAINT", "PRIMARY", "UNIQUE", "CHECK", "FOREIGN"]

/-- Does a part of a table state a condition on the whole table? -/
def isCondition (part : List Token) : Bool :=
  part.head?.any fun token => conditionWords.any token.is

/-- The name after the word for a collation. -/
def collationIn : List Token → Option String
  | word :: name :: rest =>
    if word.is "COLLATE" then some name.name else collationIn (name :: rest)
  | _ => none

/-- Reads a column. Its name is followed by further words, if by anything. -/
def column? : List Token → Except StatementFault ColumnForm
  | [] => refuse []
  | token :: rest =>
    if !token.isName then refuse (token :: rest)
    else if rest.head?.all Token.isWord then .ok ⟨token.name, collationIn rest⟩
    else refuse rest

/-- The number of indexes that a part of a table calls for. A column of whole numbers that is the
key of its table needs none. -/
def ownIndexesOf (part : List Token) : Nat :=
  let integerKey := !isCondition part && (part.drop 1).head?.any (Token.is "INTEGER")
  part.countP fun token => token.is "UNIQUE" || token.is "PRIMARY" && !integerKey

/-- Reads the options of a table, and tells whether its rows have numbers. -/
def numbered? : List Token → Except StatementFault Bool
  | [] => .ok true
  | word :: rest =>
    if word.is ";" then .ok true
    else if !word.isWord then refuse (word :: rest)
    else
      match rest with
      | [] => if word.is "STRICT" then .ok true else .error (.tableOption word.written)
      | next :: rest =>
        if word.is "WITHOUT" ∧ next.isWord then
          if next.is "ROWID" then .ok false else .error (.tableOption next.written)
        else if word.is "STRICT" ∧ (next.is "," ∨ next.is ";") then numbered? rest
        else refuse (next :: rest)

/-- The first name of a list that has been there before. The case of ASCII letters does not count. -/
def repeated? : (before : List String) → List String → Option String
  | _, [] => none
  | before, name :: rest =>
    if before.contains name.toUpper then some name else repeated? (name.toUpper :: before) rest

/-- Reads what follows the bracket after the name of a table. The first of its parts is a column. -/
def tableBody? (name : String) (tokens : List Token) : Except StatementFault TableBody := do
  let _ ← expectName tokens
  let (parts, rest) ← parts 0 [] tokens
  let columns ← (parts.filter fun part => !isCondition part).mapM column?
  if let some again := repeated? [] (columns.map ColumnForm.name) then throw (.repeatedColumn again)
  let numbered ← numbered? rest
  if !numbered ∧ !parts.any fun part => part.any (Token.is "PRIMARY") then throw (.noKey name)
  return ⟨columns, (parts.map ownIndexesOf).foldl (· + ·) 0, numbered⟩

/-- Reads what follows the word for a table. -/
def table? (tokens : List Token) : Except StatementFault Statement := do
  let (name, rest) ← expectNewName (skip ["IF", "NOT", "EXISTS"] tokens)
  return .table name (tableBody? name (← expect "(" rest))

/-- Reads what follows the word for an index. -/
def index? (tokens : List Token) : Except StatementFault Statement := do
  let (name, rest) ← expectNewName (skip ["IF", "NOT", "EXISTS"] tokens)
  let (owner, rest) ← expectName (← expect "ON" rest)
  let _ ← parts 0 [] (← expect "(" rest)
  return .index name owner

/-- Reads what follows the word for a view. -/
def view? (tokens : List Token) : Except StatementFault Statement := do
  let (name, rest) ← expectNewName (skip ["IF", "NOT", "EXISTS"] tokens)
  let rest ← match rest with
    | bracket :: inner => if bracket.is "(" then (parts 0 [] inner).map (·.2) else pure rest
    | [] => pure rest
  let _ ← expect "AS" rest
  return .view name

/-- Reads what follows the word for a trigger. -/
def trigger? (tokens : List Token) : Except StatementFault Statement := do
  let (name, rest) ← expectNewName (skip ["IF", "NOT", "EXISTS"] tokens)
  let (owner, _) ← expectName ((rest.dropWhile fun token => !token.is "ON").drop 1)
  return .trigger name owner

/-- Reads a statement. -/
def ofText? (text : String) : Except StatementFault Statement := do
  let kept ← expect "CREATE" (Token.ofText text)
  let rest := skip ["TEMPORARY"] (skip ["TEMP"] kept)
  let isKept := rest.length = kept.length
  match rest with
  | [] => refuse []
  | token :: after =>
    if token.is "TABLE" then table? after
    else if token.is "VIEW" then view? after
    else if token.is "TRIGGER" then trigger? after
    else if token.is "INDEX" ∧ isKept then index? after
    else if token.is "UNIQUE" ∧ isKept then do index? (← expect "INDEX" after)
    else if token.is "VIRTUAL" ∧ isKept then return .other
    else refuse rest

end Statement

end PriceHistory.Database
