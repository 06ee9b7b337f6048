import PriceHistory.Record

/-!
What the cache asks of the place where price points are kept. Looking whether a point is there and
reading it are two questions, and a store may answer them differently.
-/
namespace PriceHistory

/-- A store whose contents are a `σ`. A write returns the contents that it leaves, also where it
fails. -/
structure Store (σ : Type) where
  has : σ → Key → Except Failure Bool
  find? : σ → Key → Except Failure (Option Record)
  put : σ → Record → Except Failure Unit × σ

/-- What a store knows of a key. -/
inductive Lookup where
  | hit (record : Record)
  | absent
  /-- The key is there, and reading it gives nothing. -/
  | inconsistent
  deriving DecidableEq

namespace Store

variable {σ : Type} (store : Store σ)

/-- Looks for a key, and reads it where it is there. -/
def lookup (s : σ) (key : Key) : Except Failure Lookup := do
  if ← store.has s key then
    match ← store.find? s key with
    | some record => return .hit record
    | none => return .inconsistent
  else return .absent

/-- Writes records one after another, up to the first that fails. -/
def putAll : List Record → σ → Except Failure Unit × σ
  | [], s => (.ok (), s)
  | record :: rest, s =>
    match store.put s record with
    | (.ok (), s) => putAll rest s
    | (.error e, s) => (.error e, s)

@[simp] theorem putAll_nil (s : σ) : store.putAll [] s = (.ok (), s) := rfl

end Store

end PriceHistory
