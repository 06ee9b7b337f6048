import PriceHistory.Json.Document

/-!
Reading values of a fixed shape from JSON: the named members of an object, or the items of a list
that stand for them in their order. Members that the shape does not name are passed over.
-/
namespace PriceHistory.Json

/-- The members that a shape names. An object must not give one of them twice, and each of its names
has to be a text. A list may leave out members at its end, and must not have more than the shape. -/
def members? (names : List String) : Json → Option (List (String × Json))
  | object fields => do
    let named ← fields.mapM fun (name, value) => name.map fun name => (name, value)
    let known := named.filter fun (name, _) => names.contains name
    if (known.map Prod.fst).Nodup then some known else none
  | list items => if items.length ≤ names.length then some (names.zip items) else none
  | _ => none

/-- A member that has to be there. -/
def required {α : Type} (read : Json → Option α) (members : List (String × Json)) (name : String) :
    Option α :=
  (members.lookup name).bind read

/-- A member that may be absent or null. -/
def optional {α : Type} (read : Json → Option α) (members : List (String × Json)) (name : String) :
    Option (Option α) :=
  match members.lookup name with
  | none | some null => some none
  | some value => (read value).map some

/-- A text. -/
def text? : Json → Option String
  | string text => text
  | _ => none

/-- A truth value. -/
def flag? : Json → Option Bool
  | bool value => some value
  | _ => none

/-- An integer of 64 bits with a sign. -/
def integer? : Json → Option Int
  | number literal => literal.integer?.filter fun n => n < (1 <<< 63 : Nat)
  | _ => none

/-- The items of a list, each read in the same way. -/
def items? {α : Type} (read : Json → Option α) : Json → Option (List α)
  | list items => items.mapM read
  | _ => none

end PriceHistory.Json
