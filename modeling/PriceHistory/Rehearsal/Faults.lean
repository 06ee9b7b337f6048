import PriceHistory.Store

/-!
A store that fails on demand. A fault makes one action on one key fail; a ghost is a key that seems to
be there and cannot be read. Keys count as the same only in the same slot.
-/
namespace PriceHistory.Rehearsal

/-- What is asked of a store. -/
inductive Action where
  | looking
  | reading
  | writing
  deriving DecidableEq

/-- The faults of a store, oldest first, and its ghosts. -/
structure Faults where
  ghosts : List Key
  failing : List ((Action × Key) × String)

namespace Faults

/-- No faults. -/
def none : Faults := ⟨[], []⟩

/-- Fails where an action on a key has a fault; the oldest one counts. -/
def check (faults : Faults) (action : Action) (key : Key) : Except Failure Unit :=
  match faults.failing.lookup (action, key) with
  | some text => .error (.database (.reported text))
  | .none => .ok ()

variable {σ : Type}

/-- A store with faults. Writing a key lays its ghost, even where the store behind then refuses to
write; a fault comes first, and changes nothing. -/
def behind (store : Store σ) : Store (Faults × σ) where
  has s key := do
    s.1.check .looking key
    if s.1.ghosts.contains key then return true else store.has s.2 key
  find? s key := do
    s.1.check .reading key
    if s.1.ghosts.contains key then return .none else store.find? s.2 key
  put s record :=
    match s.1.check .writing record.key with
    | .error e => (.error e, s)
    | .ok () =>
      let (done, contents) := store.put s.2 record
      (done, { s.1 with ghosts := s.1.ghosts.filter (· ≠ record.key) }, contents)

end Faults

end PriceHistory.Rehearsal
