import PriceHistory.Proofs.Database.Collation
import PriceHistory.Proofs.Database.Store

/-!
Databases that agree on some keys, whatever else they hold. They answer alike under these keys, and a
write under one of them leaves them in agreement; writes under keys apart from them change nothing of
it.
-/
namespace PriceHistory.Database

/-- Keys that are filed in one row are of one date, and their slots have one text. -/
theorem RowKey.date_and_slot_of_same {collation : Collation} {a b : Key}
    (same : (RowKey.of a).same collation (.of b) = true) :
    a.date = b.date ∧ a.slot.text = b.slot.text := by
  have parts := same_iff.mp same
  simp only [significant, of, Cell.significant, Collation.significant_canonical,
    Collation.significant_slot, mk.injEq, Cell.text.injEq] at parts
  exact ⟨Calendar.Date.canonical_inj.mp parts.2.1, parts.2.2⟩

namespace Table

/-- Do two tables compare keys alike, and have the same rows under some keys? -/
structure AgreeOn (keys : Key → Prop) (a b : Table) : Prop where
  collation : a.collation = b.collation
  row : ∀ key, keys key → a.row? (.of key) = b.row? (.of key)

variable {keys : Key → Prop} {a b : Table}

theorem AgreeOn.put (agree : AgreeOn keys a b) {r : Record} (own : keys r.key) :
    AgreeOn keys (a.put r) (b.put r) := by
  refine ⟨by simp [agree.collation], fun key member => ?_⟩
  -- Under the key of the write both have what it leaves, and under the others what they had.
  by_cases same : (RowKey.of r.key).same a.collation (.of key) = true
  · rw [row?_put_of_same same, row?_put_of_same (agree.collation ▸ same), agree.row _ own]
  · rw [row?_put_of_apart same, row?_put_of_apart (agree.collation ▸ same), agree.row key member]

theorem AgreeOn.putEach (agree : AgreeOn keys a b) {records : List Record}
    (own : ∀ r ∈ records, keys r.key) : AgreeOn keys (a.putEach records) (b.putEach records) := by
  induction records generalizing a b with
  | nil => exact agree
  | cons r records ih =>
    exact ih (agree.put (own r List.mem_cons_self))
      fun later member => own later (List.mem_cons_of_mem r member)

theorem agreeOn_putEach_of_apart (t : Table) {records : List Record}
    (apart : ∀ key, keys key → ∀ r ∈ records, ¬(RowKey.of r.key).same t.collation (.of key) = true) :
    AgreeOn keys (t.putEach records) t :=
  ⟨collation_putEach t records, fun key member => row?_putEach_of_apart (apart key member)⟩

theorem AgreeOn.has (agree : AgreeOn keys a b) {key : Key} (member : keys key) :
    a.has key = b.has key := by
  rw [Table.has, Table.has, agree.row key member]

theorem AgreeOn.find? (agree : AgreeOn keys a b) {key : Key} (member : keys key) :
    a.find? key = b.find? key := by
  rw [Table.find?, Table.find?, agree.row key member]

end Table

/-! ### Databases -/

/-- Do two databases agree on some keys: do both lack a table, or do their tables agree? -/
def AgreeOn (keys : Key → Prop) (a b : Database) : Prop :=
  Option.Rel (Table.AgreeOn keys) a.table? b.table?

namespace AgreeOn

variable {keys : Key → Prop} {a b : Database}

theorem refl (keys : Key → Prop) (db : Database) : AgreeOn keys db db := by
  obtain ⟨_ | t⟩ := db
  · exact .none
  · exact .some ⟨rfl, fun _ _ => rfl⟩

theorem mono {fewer : Key → Prop} (agree : AgreeOn keys a b) (among : ∀ key, fewer key → keys key) :
    AgreeOn fewer a b := by
  obtain ⟨table⟩ := a
  obtain ⟨table'⟩ := b
  cases agree with
  | none => exact .none
  | some tables => exact .some ⟨tables.collation, fun key member => tables.row key (among key member)⟩

theorem has (agree : AgreeOn keys a b) {key : Key} (member : keys key) : a.has key = b.has key := by
  obtain ⟨table⟩ := a
  obtain ⟨table'⟩ := b
  cases agree with
  | none => rfl
  | some tables => exact congrArg Except.ok (tables.has member)

theorem find? (agree : AgreeOn keys a b) {key : Key} (member : keys key) :
    a.find? key = b.find? key := by
  obtain ⟨table⟩ := a
  obtain ⟨table'⟩ := b
  cases agree with
  | none => rfl
  | some tables => simp [Database.find?, ask, tables.find? member]

/-- Writes under keys of agreement go alike, and keep the agreement. -/
theorem putAll (agree : AgreeOn keys a b) {records : List Record} (own : ∀ r ∈ records, keys r.key) :
    (store.putAll records a).1 = (store.putAll records b).1 ∧
      AgreeOn keys (store.putAll records a).2 (store.putAll records b).2 := by
  obtain ⟨table⟩ := a
  obtain ⟨table'⟩ := b
  cases agree with
  | none => exact ⟨rfl, refl keys _⟩
  | some tables =>
    rw [store_putAll, store_putAll]
    exact ⟨rfl, .some (tables.putEach own)⟩

/-- Writes under keys that no key of agreement is filed with leave a database in agreement with what it
was. -/
theorem of_apart (db : Database) {records : List Record}
    (apart : ∀ key, keys key → ∀ r ∈ records,
      ¬(r.key.date = key.date ∧ r.key.slot.text = key.slot.text)) :
    AgreeOn keys (store.putAll records db).2 db := by
  obtain ⟨_ | t⟩ := db
  · cases records <;> exact .none
  · rw [store_putAll]
    refine .some (Table.agreeOn_putEach_of_apart t ?_)
    intro key member r inside same
    exact apart key member r inside (RowKey.date_and_slot_of_same same)

end AgreeOn

end PriceHistory.Database
