import PriceHistory.Record

/-!
What is reported of records, listings and trades: their fields in order, as JSON objects. A report
is a list of such objects, one field a line.
-/
namespace PriceHistory

/-- The value of a reported field. -/
inductive Scalar where
  | null
  | flag (value : Bool)
  | integer (value : Int)
  | text (value : String)
  deriving DecidableEq

namespace Scalar

/-- A text, or null for none. -/
def ofText? : Option String → Scalar
  | some s => text s
  | none => null

/-- A decimal as text, or null for none. -/
def ofDecimal? : Option Decimal → Scalar
  | some d => text d.text
  | none => null

end Scalar

/-- The fields of a record. -/
def Record.fields (r : Record) : List (String × Scalar) :=
  [("symbol", .text r.key.symbol.text), ("date", .text r.key.date.canonical),
    ("minute", .text r.key.slot.text), ("open", .ofDecimal? r.openPrice),
    ("high", .ofDecimal? r.high), ("low", .ofDecimal? r.low), ("close", .ofDecimal? r.close),
    ("volume", .text r.volume.text)]

/-- The fields of a listed symbol. -/
def Listing.fields (l : Listing) : List (String × Scalar) :=
  [("symbol", .text l.symbol), ("name", .ofText? l.name), ("date", .ofText? l.date),
    ("isEnabled", match l.isEnabled with
      | some b => .flag b
      | none => .null)]

/-- The fields of a last trade. -/
def LastTrade.fields (t : LastTrade) : List (String × Scalar) :=
  [("symbol", .text t.symbol), ("price", .text t.price.text), ("size", .ofDecimal? t.size),
    ("time", match t.time with
      | some n => .integer n
      | none => .null)]

namespace Report

/-- A character within a JSON string: quotes, backslashes and control characters are escaped. -/
def escape (c : Char) : List Char :=
  match c with
  | '"' => ['\\', '"']
  | '\\' => ['\\', '\\']
  | '\n' => ['\\', 'n']
  | '\r' => ['\\', 'r']
  | '\t' => ['\\', 't']
  | '\x08' => ['\\', 'b']
  | '\x0c' => ['\\', 'f']
  | c =>
    if c.toNat < 0x20 then
      ['\\', 'u', '0', '0', Nat.digitChar (c.toNat / 16), Nat.digitChar (c.toNat % 16)]
    else [c]

/-- A JSON string. -/
def quoted (s : String) : String :=
  "\"" ++ String.ofList (s.toList.flatMap escape) ++ "\""

/-- A field's value as JSON. -/
def scalar : Scalar → String
  | .null => "null"
  | .flag true => "true"
  | .flag false => "false"
  | .integer n => toString n
  | .text s => quoted s

/-- An object, one field a line. -/
def object (fields : List (String × Scalar)) : String :=
  let lines := fields.map fun (name, value) => "    " ++ quoted name ++ ": " ++ scalar value
  "  \x7b\n" ++ ",\n".intercalate lines ++ "\n  \x7d"

/-- A list of objects, without a line for none. -/
def list : List (List (String × Scalar)) → String
  | [] => "[]"
  | objects => "[\n" ++ ",\n".intercalate (objects.map object) ++ "\n]"

end Report

end PriceHistory
