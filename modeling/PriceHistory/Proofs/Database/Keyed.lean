import Mathlib.Data.List.Nodup
import PriceHistory.Proofs.Database.Table

/-!
Tables that tell all key cells apart and have one row under each key, whatever the cells hold. A write
puts its row in the place of the one under its key, and writes under different keys come to the same rows
in either order.
-/
namespace PriceHistory.Database.Table

/-- Are key cells compared exactly, and has no key two rows? -/
structure Keyed (t : Table) : Prop where
  exact : t.collation = .exact
  nodup : (t.rows.map Row.key).Nodup

variable {t : Table}

theorem Keyed.empty : Keyed .empty :=
  ⟨rfl, List.nodup_nil⟩

theorem Keyed.put (keyed : t.Keyed) (r : Record) : (t.put r).Keyed := by
  refine ⟨(collation_put t r).trans keyed.exact, ?_⟩
  rw [keys_put]
  split
  · simpa using keyed.nodup
  next missing =>
    -- A key is added only where no row has it.
    have fresh : RowKey.of r.key ∉ t.rows.map Row.key := fun member =>
      missing (has_iff.mpr ⟨_, member, rfl⟩)
    exact List.nodup_append.mpr ⟨keyed.nodup, by simp, by
      intro a old b new same
      rw [List.mem_singleton.mp new] at same
      exact fresh (same ▸ old)⟩

theorem Keyed.putEach (keyed : t.Keyed) (records : List Record) : (t.putEach records).Keyed := by
  induction records generalizing t with
  | nil => exact keyed
  | cons r records ih => exact ih (keyed.put r)

/-- A row of the record is written, either in the place of the row that had its key or at the end. -/
theorem Keyed.rows_put (keyed : t.Keyed) (r : Record) :
    (t.put r).rows = if t.has r.key then
        t.rows.map fun old => if old.key = .of r.key then { old with values := .of r } else old
      else t.rows ++ [Row.of r] := by
  split
  next present =>
    rw [rows_put_of_has present, keyed.exact]
    simp only [RowKey.same_exact, decide_eq_true_eq]
  next missing => exact rows_put_of_not_has missing

theorem Keyed.has_iff_mem (keyed : t.Keyed) {key : Key} :
    t.has key = true ↔ ∃ row ∈ t.rows, row.key = .of key := by
  rw [has_iff, keyed.exact]
  simp only [RowKey.significant_exact, List.mem_map]
  constructor
  · rintro ⟨_, ⟨row, member, rfl⟩, same⟩
    exact ⟨row, member, same⟩
  · rintro ⟨row, member, same⟩
    exact ⟨row.key, ⟨row, member, rfl⟩, same⟩

/-- After a write there are the row written and the old rows with other keys. -/
theorem Keyed.mem_rows_put (keyed : t.Keyed) {r : Record} {row : Row} :
    row ∈ (t.put r).rows ↔ row = Row.of r ∨ row ∈ t.rows ∧ row.key ≠ .of r.key := by
  rw [keyed.rows_put]
  split
  next present =>
    obtain ⟨place, inPlace, samePlace⟩ := keyed.has_iff_mem.mp present
    simp only [List.mem_map]
    constructor
    · rintro ⟨old, inside, rfl⟩
      split
      next same => exact .inl (by rw [same]; rfl)
      next other => exact .inr ⟨inside, other⟩
    · rintro (rfl | ⟨inside, other⟩)
      · exact ⟨place, inPlace, by rw [if_pos samePlace, samePlace]; rfl⟩
      · exact ⟨row, inside, if_neg other⟩
  next missing =>
    simp only [List.mem_append, List.mem_singleton]
    constructor
    · rintro (old | new)
      · exact .inr ⟨old, fun same => missing (keyed.has_iff_mem.mpr ⟨row, old, same⟩)⟩
      · exact .inl new
    · rintro (new | ⟨old, _⟩)
      · exact .inr new
      · exact .inl old

theorem Keyed.mem_rows_putEach_of_other (keyed : t.Keyed) {records : List Record} {row : Row}
    (other : ∀ r ∈ records, row.key ≠ .of r.key) :
    row ∈ (t.putEach records).rows ↔ row ∈ t.rows := by
  apply mem_rows_putEach_of_apart
  intro r member
  rw [keyed.exact, RowKey.same_exact, decide_eq_true_eq]
  exact other r member

theorem Keyed.row?_eq_some_iff (keyed : t.Keyed) {key : RowKey} {row : Row} :
    t.row? key = some row ↔ row ∈ t.rows ∧ row.key = key := by
  unfold row?
  rw [keyed.exact]
  simp only [RowKey.same_exact]
  constructor
  · intro found
    exact ⟨List.mem_of_find?_eq_some found, by simpa using List.find?_some found⟩
  · rintro ⟨member, rfl⟩
    -- The row itself would be found, and no other row has its key.
    cases found : t.rows.find? fun other => decide (other.key = row.key) with
    | none => simpa using List.find?_eq_none.mp found row member
    | some other =>
      have same : other.key = row.key := by simpa using List.find?_some found
      rw [List.inj_on_of_nodup_map keyed.nodup (List.mem_of_find?_eq_some found) member same]

/-! ### The rows of one symbol -/

/-- Do two tables have the same rows of a symbol, whatever they have of others? -/
def AgreeAbout (symbol : Symbol) (a b : Table) : Prop :=
  ∀ row : Row, row.key.symbol = .text symbol.text → (row ∈ a.rows ↔ row ∈ b.rows)

variable {symbol : Symbol} {a b : Table}

theorem AgreeAbout.put (agree : a.AgreeAbout symbol b) (keyed : a.Keyed) (keyed' : b.Keyed)
    (r : Record) : (a.put r).AgreeAbout symbol (b.put r) := by
  intro row own
  rw [keyed.mem_rows_put, keyed'.mem_rows_put, agree row own]

theorem AgreeAbout.putEach (agree : a.AgreeAbout symbol b) (keyed : a.Keyed) (keyed' : b.Keyed)
    (records : List Record) : (a.putEach records).AgreeAbout symbol (b.putEach records) := by
  induction records generalizing a b with
  | nil => exact agree
  | cons r records ih => exact ih (agree.put keyed keyed' r) (keyed.put r) (keyed'.put r)

/-- One row at most is under a key, so tables that agree about a symbol have the same one. -/
theorem AgreeAbout.row? (agree : a.AgreeAbout symbol b) (keyed : a.Keyed) (keyed' : b.Keyed) {key : Key}
    (own : key.symbol = symbol) : a.row? (.of key) = b.row? (.of key) := by
  apply Option.ext
  intro row
  rw [keyed.row?_eq_some_iff, keyed'.row?_eq_some_iff]
  apply and_congr_left
  intro here
  refine agree row ?_
  rw [here, ← own]
  rfl

/-- Writes of one symbol change no row of another, in whatever cells that row holds it. -/
theorem Keyed.mem_rows_putEach_of_symbol (keyed : t.Keyed) {records : List Record}
    (own : ∀ r ∈ records, r.key.symbol = symbol) {row : Row}
    (foreign : row.key.symbol ≠ .text symbol.text) : row ∈ (t.putEach records).rows ↔ row ∈ t.rows := by
  apply keyed.mem_rows_putEach_of_other
  intro r member same
  rw [same, ← own r member] at foreign
  exact foreign rfl

theorem Keyed.agreeAbout_putEach (keyed : t.Keyed) {other : Symbol} (apart : other ≠ symbol)
    {records : List Record} (own : ∀ r ∈ records, r.key.symbol = symbol) :
    t.AgreeAbout other (t.putEach records) := by
  intro row here
  have foreign : row.key.symbol ≠ .text symbol.text := by
    rw [here]
    intro same
    apply apart
    rw [Symbol.mk.injEq]
    exact Cell.text.inj same
  exact (keyed.mem_rows_putEach_of_symbol own foreign).symm

/-- Writes of two symbols leave the same rows in either order. -/
theorem Keyed.perm_putEach_putEach (keyed : t.Keyed) {one other : Symbol} (apart : one ≠ other)
    {first second : List Record} (ofOne : ∀ r ∈ first, r.key.symbol = one)
    (ofOther : ∀ r ∈ second, r.key.symbol = other) :
    ((t.putEach first).putEach second).rows.Perm ((t.putEach second).putEach first).rows := by
  have afterFirst := keyed.putEach first
  have afterSecond := keyed.putEach second
  have distinct (t : Table) (keyed : t.Keyed) : t.rows.Nodup := .of_map _ keyed.nodup
  apply (List.perm_ext_iff_of_nodup (distinct _ (afterFirst.putEach second))
    (distinct _ (afterSecond.putEach first))).mpr
  intro row
  -- The row is of the one symbol, of the other, or of neither, and then no write is under its key.
  by_cases here : row.key.symbol = .text one.text
  · rw [← afterFirst.agreeAbout_putEach apart ofOther row here]
    exact (keyed.agreeAbout_putEach apart ofOther).putEach keyed afterSecond first row here
  · rw [afterSecond.mem_rows_putEach_of_symbol ofOne here]
    by_cases there : row.key.symbol = .text other.text
    · exact ((keyed.agreeAbout_putEach apart.symm ofOne).putEach keyed afterFirst second row there).symm
    · rw [afterFirst.mem_rows_putEach_of_symbol ofOther there,
        keyed.mem_rows_putEach_of_symbol ofOne here, keyed.mem_rows_putEach_of_symbol ofOther there]

end PriceHistory.Database.Table
