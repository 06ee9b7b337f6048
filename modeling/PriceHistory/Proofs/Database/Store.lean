import PriceHistory.Database.Basic
import PriceHistory.Proofs.Database.Filled
import PriceHistory.Proofs.Store.Interruptions
import PriceHistory.Proofs.Store.Reliable

/-!
A database with a price table as a store, free of faults and with them. Writes go through one after
another up to the first that fails, and what is stored then is the part of them that went through.
-/
namespace PriceHistory.Database

@[simp] theorem store_has (t : Table) (key : Key) : store.has ⟨some t⟩ key = .ok (t.has key) := rfl

@[simp] theorem store_put (t : Table) (r : Record) :
    store.put ⟨some t⟩ r = (.ok (), ⟨some (t.put r)⟩) := rfl

theorem store_find? {t : Table} (filled : t.Filled) (key : Key) :
    store.find? ⟨some t⟩ key = .ok (t.held key) := by
  simp [store, Database.find?, ask, filled.find?_eq]

/-- What a filled table is asked for is either there and readable, or absent. -/
theorem store_lookup {t : Table} (filled : t.Filled) (key : Key) :
    store.lookup ⟨some t⟩ key = .ok ((t.held key).elim .absent .hit) := by
  rw [Store.lookup, store_has, filled.has_eq, store_find? filled]
  cases t.held key <;> rfl

@[simp] theorem store_hit? {t : Table} (filled : t.Filled) (key : Key) :
    store.hit? ⟨some t⟩ key = t.held key := by
  rw [Store.hit?, store_lookup filled]
  cases t.held key <;> rfl

/-- A database whose table is filled does not fail. -/
theorem store_reliable : store.Reliable fun db => ∃ t, db = ⟨some t⟩ ∧ t.Filled := by
  constructor
  · rintro _ ⟨t, rfl, filled⟩ key
    exact ⟨_, store_has t key⟩
  · rintro _ ⟨t, rfl, filled⟩ key
    exact ⟨_, store_find? filled key⟩
  · rintro _ ⟨t, rfl, filled⟩ record
    rw [store_put]
    exact ⟨rfl, t.put record, rfl, filled.put record⟩

@[simp] theorem store_putAll (t : Table) (records : List Record) :
    store.putAll records ⟨some t⟩ = (.ok (), ⟨some (t.putEach records)⟩) := by
  induction records generalizing t with
  | nil => rfl
  | cons r records ih => simp [Store.putAll, ih]

/-- A database after some writes: its table with the records in it, if it has one. -/
def putEach (db : Database) (records : List Record) : Database :=
  ⟨db.table?.map (·.putEach records)⟩

@[simp] theorem putEach_nil (db : Database) : db.putEach [] = db := by
  obtain ⟨_ | t⟩ := db <;> rfl

theorem putEach_append (db : Database) (first second : List Record) :
    db.putEach (first ++ second) = (db.putEach first).putEach second := by
  obtain ⟨_ | t⟩ := db
  · rfl
  · exact congrArg (fun t => (⟨some t⟩ : Database)) (Table.putEach_append t first second)

theorem put_interrupted_of_ok {faults : Interruptions} {tried : Nat} {db : Database} {r : Record}
    (taken : ((store.interrupted faults).put (tried, db) r).1 = .ok ()) :
    ((store.interrupted faults).put (tried, db) r).2 = (tried + 1, db.putEach [r]) := by
  obtain ⟨_ | t⟩ := db <;> cases fault : faults.writing tried <;>
    simp_all [Store.interrupted, store, Database.put, ask, putEach]

/-- A write that fails changes nothing. -/
theorem put_interrupted_of_error {faults : Interruptions} {tried : Nat} {db : Database} {r : Record}
    {e : Failure} (failed : ((store.interrupted faults).put (tried, db) r).1 = .error e) :
    ((store.interrupted faults).put (tried, db) r).2 = (tried + 1, db) := by
  obtain ⟨_ | t⟩ := db <;> cases fault : faults.writing tried <;>
    simp_all [Store.interrupted, store, Database.put, ask]

/-- Of some writes those that come before the first fault are stored, and no others. -/
theorem putAll_interrupted (faults : Interruptions) (tried : Nat) (t : Table)
    (records : List Record) :
    let done := (store.interrupted faults).putAll records (tried, ⟨some t⟩)
    done.2.2 = ⟨some (t.putEach (records.take (faults.passed tried records.length)))⟩ ∧
      (faults.passed tried records.length = records.length → done.1 = .ok ()) ∧
      (faults.passed tried records.length < records.length → ∃ e, done.1 = .error e ∧
        faults.writing (tried + faults.passed tried records.length) = some e) := by
  -- The number of writes tried grows along the list, and the table with it.
  induction records generalizing tried t with
  | nil => exact ⟨rfl, fun _ => rfl, fun short => absurd short (Nat.lt_irrefl 0)⟩
  | cons r records ih =>
    rw [List.length_cons]
    cases fault : faults.writing tried with
    | some e =>
      have stop : (store.interrupted faults).putAll (r :: records) (tried, ⟨some t⟩) =
          (.error e, tried + 1, ⟨some t⟩) := by
        simp [Store.putAll, Store.interrupted, fault]
      rw [stop, Interruptions.passed_of_fault fault]
      exact ⟨rfl, fun all => absurd all (by omega), fun _ => ⟨e, rfl, fault⟩⟩
    | none =>
      have step : (store.interrupted faults).putAll (r :: records) (tried, ⟨some t⟩) =
          (store.interrupted faults).putAll records (tried + 1, ⟨some (t.put r)⟩) := by
        simp [Store.putAll, Store.interrupted, fault]
      obtain ⟨stored, whole, failed⟩ := ih (tried + 1) (t.put r)
      rw [step, Interruptions.passed_succ fault, List.take_succ_cons, Table.putEach_cons]
      refine ⟨stored, fun all => whole (Nat.succ.inj all), fun short => ?_⟩
      obtain ⟨e, outcome, cause⟩ := failed (Nat.lt_of_succ_lt_succ short)
      refine ⟨e, outcome, ?_⟩
      rw [← cause]
      congr 1
      omega

end PriceHistory.Database
