import PriceHistory.Database.Table
import PriceHistory.Proofs.Database.Row

/-!
Which keys a table has and which row is under a key, whatever its rows hold and however its keys are
compared. A write never takes a key away, adds its own alone, and changes no row but the one under it.
-/
namespace PriceHistory.Database

/-! ### Keys that count as the same -/

/-- The part of a cell that counts. -/
def Cell.significant (collation : Collation) : Cell → Cell
  | text value => .text (collation.significant value)
  | blob bytes => .blob bytes

theorem Cell.same_iff {collation : Collation} {a b : Cell} :
    a.same collation b = true ↔ a.significant collation = b.significant collation := by
  cases a <;> cases b <;> simp [same, significant]

/-- The part of a row's key that counts. -/
def RowKey.significant (collation : Collation) (key : RowKey) : RowKey :=
  ⟨key.symbol.significant collation, key.date.significant collation,
    key.minute.significant collation⟩

theorem RowKey.same_iff {collation : Collation} {a b : RowKey} :
    a.same collation b = true ↔ a.significant collation = b.significant collation := by
  simp only [same, Bool.and_eq_true, Cell.same_iff, significant, mk.injEq]
  constructor
  · rintro ⟨⟨minute, date⟩, symbol⟩
    exact ⟨symbol, date, minute⟩
  · rintro ⟨symbol, date, minute⟩
    exact ⟨⟨minute, date⟩, symbol⟩

theorem RowKey.same_congr {collation : Collation} {a b : RowKey} (same : a.same collation b = true)
    (other : RowKey) : other.same collation a = other.same collation b := by
  rw [Bool.eq_iff_iff, same_iff, same_iff, same_iff.mp same]

@[simp] theorem Cell.significant_exact (cell : Cell) : cell.significant .exact = cell := by
  cases cell <;> rfl

@[simp] theorem RowKey.significant_exact (key : RowKey) : key.significant .exact = key := by
  simp [significant]

theorem RowKey.same_exact {a b : RowKey} : a.same .exact b = decide (a = b) := by
  rw [Bool.eq_iff_iff, same_iff]
  simp

namespace Table

theorem eq_of_rows {a b : Table} (collations : a.collation = b.collation) (rows : a.rows = b.rows) :
    a = b := by
  cases a
  cases b
  simp_all

/-- Writes records one after another. -/
def putEach (t : Table) (records : List Record) : Table :=
  records.foldl put t

@[simp] theorem putEach_nil (t : Table) : t.putEach [] = t := rfl

@[simp] theorem putEach_cons (t : Table) (r : Record) (records : List Record) :
    t.putEach (r :: records) = (t.put r).putEach records := rfl

@[simp] theorem putEach_append (t : Table) (first second : List Record) :
    t.putEach (first ++ second) = (t.putEach first).putEach second :=
  List.foldl_append

/-! ### Which keys are there -/

@[simp] theorem collation_put (t : Table) (r : Record) : (t.put r).collation = t.collation := by
  simp only [put]
  split <;> rfl

@[simp] theorem collation_putEach (t : Table) (records : List Record) :
    (t.putEach records).collation = t.collation := by
  induction records generalizing t with
  | nil => rfl
  | cons r records ih => rw [putEach_cons, ih, collation_put]

theorem has_iff {t : Table} {key : Key} : t.has key = true ↔
    ∃ k ∈ t.rows.map Row.key, k.significant t.collation = (RowKey.of key).significant t.collation := by
  simp only [has, row?, List.find?_isSome, RowKey.same_iff, List.mem_map]
  constructor
  · rintro ⟨row, member, same⟩
    exact ⟨row.key, ⟨row, member, rfl⟩, same⟩
  · rintro ⟨_, ⟨row, member, rfl⟩, same⟩
    exact ⟨row, member, same⟩

theorem rows_put_of_has {t : Table} {r : Record} (present : t.has r.key = true) :
    (t.put r).rows = t.rows.map fun old =>
      if old.key.same t.collation (.of r.key) then { old with values := .of r } else old := by
  have found : (t.row? (Row.of r).key).isSome = true := present
  unfold put
  dsimp only
  rw [if_pos found]
  rfl

theorem rows_put_of_not_has {t : Table} {r : Record} (missing : ¬t.has r.key = true) :
    (t.put r).rows = t.rows ++ [Row.of r] := by
  have unfound : ¬(t.row? (Row.of r).key).isSome = true := missing
  unfold put
  dsimp only
  rw [if_neg unfound]

/-- A write keeps the keys that are there, and adds its own where it is not among them. -/
theorem keys_put (t : Table) (r : Record) : (t.put r).rows.map Row.key =
    t.rows.map Row.key ++ (if t.has r.key then [] else [RowKey.of r.key]) := by
  by_cases present : t.has r.key = true
  · rw [rows_put_of_has present, if_pos present, List.append_nil, List.map_map]
    apply List.map_congr_left
    intro old _
    simp only [Function.comp_apply]
    split <;> rfl
  · rw [rows_put_of_not_has present, if_neg present, List.map_append]
    rfl

/-- Writes take no key away, and keep the keys in their places. -/
theorem keys_prefix_putEach (t : Table) (records : List Record) :
    t.rows.map Row.key <+: (t.putEach records).rows.map Row.key := by
  induction records generalizing t with
  | nil => exact List.prefix_refl _
  | cons r records ih =>
    apply List.IsPrefix.trans _ (ih (t.put r))
    rw [keys_put]
    exact List.prefix_append _ _

theorem has_put {t : Table} {r : Record} {key : Key} : (t.put r).has key = true ↔
    t.has key = true ∨ (RowKey.of r.key).same t.collation (.of key) = true := by
  rw [has_iff, has_iff, keys_put, collation_put, RowKey.same_iff]
  simp only [List.mem_append]
  constructor
  · rintro ⟨k, old | new, same⟩
    · exact .inl ⟨k, old, same⟩
    · split at new
      · cases new
      · rw [List.mem_singleton.mp new] at same
        exact .inr same
  · rintro (⟨k, old, same⟩ | same)
    · exact ⟨k, .inl old, same⟩
    · by_cases present : t.has r.key = true
      · obtain ⟨k, old, first⟩ := has_iff.mp present
        exact ⟨k, .inl old, first.trans same⟩
      · exact ⟨RowKey.of r.key, .inr (by simp [present]), same⟩

theorem has_putEach {t : Table} {records : List Record} {key : Key} :
    (t.putEach records).has key = true ↔ t.has key = true ∨
      ∃ r ∈ records, (RowKey.of r.key).same t.collation (.of key) = true := by
  induction records generalizing t with
  | nil => simp
  | cons r records ih =>
    rw [putEach_cons, ih, has_put, collation_put]
    simp [or_assoc]

/-! ### The row under a key -/

/-- The row that a write leaves under its key, where some row was there or none. -/
def overwritten (r : Record) : Option Row → Row
  | some old => { old with values := .of r }
  | none => .of r

/-- Rows that are written over keep their keys, so the same row is found by its key. -/
private theorem find?_put_of_has {t : Table} {r : Record} (present : t.has r.key = true)
    (p : RowKey → Bool) : (t.put r).rows.find? (fun row => p row.key) =
      (t.rows.find? fun row => p row.key).map fun old =>
        if old.key.same t.collation (.of r.key) then { old with values := .of r } else old := by
  have kept : (fun row : Row => p row.key) ∘ (fun old : Row =>
      if old.key.same t.collation (.of r.key) then { old with values := .of r } else old) =
      fun row => p row.key := by
    funext row
    simp only [Function.comp_apply]
    split <;> rfl
  rw [rows_put_of_has present, List.find?_map, kept]

theorem row?_put_of_same {t : Table} {r : Record} {key : RowKey}
    (same : (RowKey.of r.key).same t.collation key = true) :
    (t.put r).row? key = some (overwritten r (t.row? (.of r.key))) := by
  have alike : (fun row : Row => row.key.same t.collation key) =
      fun row => row.key.same t.collation (.of r.key) :=
    funext fun row => (RowKey.same_congr same row.key).symm
  rw [row?, collation_put, alike]
  cases found : t.row? (.of r.key) with
  | none =>
    have missing : ¬t.has r.key = true := by simp [has, found]
    -- No row is found before the one that is added.
    have others : t.rows.find? (fun row => row.key.same t.collation (.of r.key)) = none := found
    rw [rows_put_of_not_has missing, List.find?_append, others]
    simp [overwritten, RowKey.same_iff]
  | some old =>
    have present : t.has r.key = true := by simp [has, found]
    have first : t.rows.find? (fun row => row.key.same t.collation (.of r.key)) = some old := found
    rw [find?_put_of_has present fun k => k.same t.collation (.of r.key), first, Option.map_some,
      if_pos (List.find?_some first)]
    rfl

theorem row?_put_of_apart {t : Table} {r : Record} {key : RowKey}
    (apart : ¬(RowKey.of r.key).same t.collation key = true) : (t.put r).row? key = t.row? key := by
  rw [row?, row?, collation_put]
  by_cases present : t.has r.key = true
  · rw [find?_put_of_has present fun k => k.same t.collation key]
    cases found : t.rows.find? fun row => row.key.same t.collation key with
    | none => rfl
    | some row =>
      have here : row.key.same t.collation key = true := by simpa using List.find?_some found
      -- The row that is found is not the one written over.
      have other : ¬row.key.same t.collation (.of r.key) = true := by
        intro there
        rw [RowKey.same_iff] at here there apart
        exact apart (there.symm.trans here)
      rw [Option.map_some, if_neg other]
  · have unfound : [Row.of r].find? (fun row => row.key.same t.collation key) = none := by
      simp [apart]
    rw [rows_put_of_not_has present, List.find?_append, unfound, Option.or_none]

theorem row?_putEach_of_apart {t : Table} {records : List Record} {key : RowKey}
    (apart : ∀ r ∈ records, ¬(RowKey.of r.key).same t.collation key = true) :
    (t.putEach records).row? key = t.row? key := by
  induction records generalizing t with
  | nil => rfl
  | cons r records ih =>
    rw [putEach_cons, ih, row?_put_of_apart (apart r List.mem_cons_self)]
    intro later member
    rw [collation_put]
    exact apart later (List.mem_cons_of_mem r member)

/-! ### Which rows stay -/

theorem mem_rows_put_of_apart {t : Table} {r : Record} {row : Row}
    (apart : ¬row.key.same t.collation (.of r.key) = true) :
    row ∈ (t.put r).rows ↔ row ∈ t.rows := by
  by_cases present : t.has r.key = true
  · rw [rows_put_of_has present, List.mem_map]
    constructor
    · rintro ⟨old, inside, rfl⟩
      by_cases same : old.key.same t.collation (.of r.key) = true
      · rw [if_pos same] at apart
        exact absurd same apart
      · rw [if_neg same]
        exact inside
    · intro inside
      exact ⟨row, inside, if_neg apart⟩
  · rw [rows_put_of_not_has present, List.mem_append, List.mem_singleton]
    constructor
    · rintro (old | rfl)
      · exact old
      · exact absurd (RowKey.same_iff.mpr rfl) apart
    · exact .inl

/-- Writes change no row but those under their own keys. -/
theorem mem_rows_putEach_of_apart {t : Table} {records : List Record} {row : Row}
    (apart : ∀ r ∈ records, ¬row.key.same t.collation (.of r.key) = true) :
    row ∈ (t.putEach records).rows ↔ row ∈ t.rows := by
  induction records generalizing t with
  | nil => exact Iff.rfl
  | cons r records ih =>
    rw [putEach_cons, ih, mem_rows_put_of_apart (apart r List.mem_cons_self)]
    intro later member
    rw [collation_put]
    exact apart later (List.mem_cons_of_mem r member)

end Table

end PriceHistory.Database
