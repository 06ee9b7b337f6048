import PriceHistory.Store

/-!
Stores with faults, whatever they hold. Any look at a key and any reading of it may fail, and so may
each write, counted from zero; a write that fails changes nothing.
-/
namespace PriceHistory

/-- The faults of a store: looking for a key, reading it, and the writes by their number. -/
structure Interruptions where
  looking : Key → Option Failure
  reading : Key → Option Failure
  writing : Nat → Option Failure

/-- A store with faults. Its contents come with the number of writes tried so far. -/
def Store.interrupted {σ : Type} (store : Store σ) (faults : Interruptions) : Store (Nat × σ) where
  has s key :=
    match faults.looking key with
    | some e => .error e
    | none => store.has s.2 key
  find? s key :=
    match faults.reading key with
    | some e => .error e
    | none => store.find? s.2 key
  put s record :=
    match faults.writing s.1 with
    | some e => (.error e, s.1 + 1, s.2)
    | none =>
      let (done, contents) := store.put s.2 record
      (done, s.1 + 1, contents)

namespace Interruptions

variable {faults : Interruptions} {tried : Nat}

/-- How many of `count` writes go through before the first that fails, when `tried` were tried before
them. -/
def passed (faults : Interruptions) (tried : Nat) : Nat → Nat
  | 0 => 0
  | count + 1 =>
    match faults.writing tried with
    | some _ => 0
    | none => passed faults (tried + 1) count + 1

theorem passed_of_fault {e : Failure} (fault : faults.writing tried = some e) (count : Nat) :
    faults.passed tried count = 0 := by
  cases count <;> simp [passed, fault]

theorem passed_succ (fine : faults.writing tried = none) (count : Nat) :
    faults.passed tried (count + 1) = faults.passed (tried + 1) count + 1 := by
  simp [passed, fine]

theorem passed_le (count : Nat) : faults.passed tried count ≤ count := by
  induction count generalizing tried with
  | zero => exact Nat.le_refl 0
  | succ count ih =>
    cases fault : faults.writing tried with
    | some e => simp [passed_of_fault fault]
    | none =>
      rw [passed_succ fault]
      exact Nat.succ_le_succ ih

end Interruptions

end PriceHistory
