import Mathlib.Data.List.Dedup
import Mathlib.Data.List.Induction
import PriceHistory.Proofs.Database.Store

/-!
A database that starts empty and is only written to, as a finite map. A key is there exactly if a
record was written for its point, it gives the last of these records with every number in its value
and its places, and the points of a symbol are counted once each.
-/
namespace PriceHistory

/-! ### Points and what is read back of them -/

/-- Do two keys name one point: the same symbol, the same day, and slots with the same text? -/
def Key.SamePoint (a b : Key) : Prop :=
  a.symbol = b.symbol ∧ a.date = b.date ∧ a.slot.text = b.slot.text

instance (a b : Key) : Decidable (a.SamePoint b) :=
  inferInstanceAs (Decidable (_ ∧ _))

/-- The slot that is read from the text of a slot: the whole day from `00:00`, else a minute. -/
theorem Slot.readBack_cases (slot : Slot) :
    slot.text = wholeDayText ∧ slot.readBack = wholeDay ∨
      slot.text ≠ wholeDayText ∧ ∃ time, slot.readBack = minute time ∧ time.text = slot.text := by
  cases slot with
  | minute time =>
    by_cases midnight : time.text = wholeDayText
    · exact .inl ⟨midnight, if_pos midnight⟩
    · exact .inr ⟨midnight, time, if_neg midnight, rfl⟩
  | wholeDay => exact .inl ⟨rfl, rfl⟩
  | marker => exact .inr ⟨by decide, markerTime, rfl, text_markerTime⟩

@[simp] theorem Decimal.signedCoefficient_readBack (d : Decimal) :
    d.readBack.signedCoefficient = d.signedCoefficient := by
  obtain ⟨magnitude, negative⟩ := d
  cases negative with
  | false => rfl
  | true =>
    by_cases zero : magnitude.coefficient = 0 <;>
      simp [signedCoefficient, readBack, Magnitude.signed, zero]

namespace Record

/-- The numbers of a record, each by its value without the point and by its places; a price may be
missing. -/
def figures (r : Record) : List (Option (Int × Nat)) :=
  [r.openPrice, r.high, r.low, r.close, some r.volume].map
    (Option.map fun d => (d.signedCoefficient, d.scale))

@[simp] theorem figures_readBack (r : Record) : r.readBack.figures = r.figures := by
  have number (price : Option Decimal) : (price.map Decimal.readBack).map
      (fun d => (d.signedCoefficient, d.scale)) = price.map fun d => (d.signedCoefficient, d.scale) := by
    cases price <;> simp
  simp [figures, readBack, number]

/-- Is a record what another is read back as? Symbol and day are the same, the slot is the whole day
where its text is `00:00` and else the minute of its text, and every number has its value and its
places. -/
structure ReadAs (written found : Record) : Prop where
  symbol : found.key.symbol = written.key.symbol
  date : found.key.date = written.key.date
  slot : written.key.slot.text = Slot.wholeDayText ∧ found.key.slot = .wholeDay ∨
    written.key.slot.text ≠ Slot.wholeDayText ∧
      ∃ time, found.key.slot = .minute time ∧ time.text = written.key.slot.text
  figures : found.figures = written.figures

theorem readAs_readBack (r : Record) : r.ReadAs r.readBack :=
  ⟨rfl, rfl, r.key.slot.readBack_cases, r.figures_readBack⟩

end Record

namespace Database

theorem RowKey.of_eq_iff_samePoint {a b : Key} : RowKey.of a = RowKey.of b ↔ a.SamePoint b :=
  RowKey.of_eq_iff

/-! ### The table of a sequence of writes -/

namespace Table

/-- Writing a record twice is writing it once. -/
theorem Filled.put_put {t : Table} (filled : Filled t) (r : Record) : (t.put r).put r = t.put r := by
  have twice : (t.put r).has r.key = true := has_put.mpr (.inr (RowKey.same_iff.mpr rfl))
  have rows : ((t.put r).put r).rows = (t.put r).rows := by
    rw [(filled.put r).keyed.rows_put, if_pos twice]
    refine (List.map_congr_left fun old inside => ?_).trans (List.map_id _)
    -- The only row with these cells is the one that the first write has left.
    split
    next same =>
      rcases filled.keyed.mem_rows_put.mp inside with new | ⟨_, other⟩
      · rw [new]
        rfl
      · exact absurd same other
    · rfl
  exact eq_of_rows (collation_put _ r) rows

theorem Filled.mem_keys_putEach {t : Table} (filled : Filled t) {records : List Record}
    {key : RowKey} : key ∈ (t.putEach records).rows.map Row.key ↔
      key ∈ t.rows.map Row.key ∨ ∃ r ∈ records, key = .of r.key := by
  induction records generalizing t with
  | nil => simp
  | cons r records ih =>
    have first : key ∈ (t.put r).rows.map Row.key ↔ key ∈ t.rows.map Row.key ∨ key = .of r.key := by
      rw [keys_put]
      split
      next present =>
        obtain ⟨row, member, same⟩ := filled.keyed.has_iff_mem.mp present
        have there : RowKey.of r.key ∈ t.rows.map Row.key := List.mem_map.mpr ⟨row, member, same⟩
        simp only [List.append_nil]
        exact ⟨.inl, fun either => either.elim id fun new => new ▸ there⟩
      · simp
    rw [putEach_cons, ih (filled.put r), first]
    simp [or_assoc]

@[simp] theorem held_empty (key : Key) : empty.held key = none := rfl

/-- A table that starts empty holds under a key the last record written for its point. -/
theorem held_writes (records : List Record) (key : Key) : (empty.putEach records).held key =
    (records.findRev? fun r => r.key.SamePoint key).map Record.readBack := by
  rw [Filled.empty.held_putEach, held_empty, Option.or_none]
  simp only [RowKey.of_eq_iff_samePoint]

/-- The rows of a table that starts empty are those of the records that are the last written for their
points. -/
theorem mem_rows_writes {records : List Record} {row : Row} :
    row ∈ (empty.putEach records).rows ↔
      ∃ r, records.findRev? (fun q => q.key.SamePoint r.key) = some r ∧ row = .of r := by
  simp only [List.findRev?_eq_find?_reverse]
  induction records using List.reverseRecOn with
  | nil =>
    constructor
    · intro nothing
      cases nothing
    · rintro ⟨r, found, _⟩
      cases found
  | append_singleton records last ih =>
    have filled : (empty.putEach records).Filled := Filled.empty.putEach records
    have step : (empty.putEach (records ++ [last])).rows = ((empty.putEach records).put last).rows := by
      rw [putEach_append]
      rfl
    rw [step, filled.keyed.mem_rows_put, ih, List.reverse_append, List.reverse_singleton]
    simp only [List.singleton_append, List.find?_cons]
    constructor
    · rintro (rfl | ⟨⟨r, found, rfl⟩, other⟩)
      · exact ⟨last, by simp [Key.SamePoint], rfl⟩
      · -- A row that stays is of another point than the last record.
        have apart : ¬last.key.SamePoint r.key :=
          fun same => other (RowKey.of_eq_iff_samePoint.mpr same).symm
        exact ⟨r, by simp [apart, found], rfl⟩
    · rintro ⟨r, found, rfl⟩
      by_cases same : last.key.SamePoint r.key
      · simp only [same, decide_true, Option.some.injEq] at found
        exact .inl (congrArg _ found.symm)
      · simp only [same, decide_false] at found
        refine .inr ⟨⟨r, found, rfl⟩, fun cells => same ?_⟩
        exact RowKey.of_eq_iff_samePoint.mp cells.symm

/-- A table that starts empty counts each point of a symbol once. -/
theorem count_writes (records : List Record) (symbol : Symbol) :
    (empty.putEach records).count symbol = ((records.filter fun r => r.key.symbol = symbol).map
      fun r => (r.key.date, r.key.slot.text)).dedup.length := by
  let t := empty.putEach records
  have filled : t.Filled := Filled.empty.putEach records
  let cells (point : Calendar.Date × String) : RowKey :=
    ⟨.text symbol.text, .text point.1.canonical, .text point.2⟩
  have apart : Function.Injective cells := by
    rintro ⟨date, text⟩ ⟨date', text'⟩ same
    simpa [cells, Calendar.Date.canonical_inj] using same
  let points := (records.filter fun r => r.key.symbol = symbol).map
    fun r => (r.key.date, r.key.slot.text)
  let own := (t.rows.map Row.key).filter fun key => key.symbol = .text symbol.text
  have counted : t.count symbol = own.length := by
    simp only [count, own, List.countP_eq_length_filter, List.filter_map, List.length_map,
      filled.keyed.exact, Function.comp_def]
    congr 2
    funext row
    rw [Bool.eq_iff_iff, Cell.same_iff]
    simp
  -- The keys of the symbol's rows are the cells of its points, each once.
  have perm : own.Perm (points.dedup.map cells) := by
    apply (List.perm_ext_iff_of_nodup (filled.keyed.nodup.filter _)
      (points.nodup_dedup.map apart)).mpr
    intro key
    rw [List.mem_filter, Filled.empty.mem_keys_putEach]
    simp only [points, List.mem_map, List.mem_dedup, List.mem_filter, decide_eq_true_eq]
    constructor
    · rintro ⟨⟨row, nothing, _⟩ | ⟨r, member, rfl⟩, here⟩
      · cases nothing
      · have symbols : r.key.symbol = symbol := by
          rw [Symbol.mk.injEq]
          exact Cell.text.inj here
        refine ⟨_, ⟨r, ⟨member, symbols⟩, rfl⟩, ?_⟩
        dsimp only [cells]
        rw [← symbols]
        rfl
    · rintro ⟨_, ⟨r, ⟨member, rfl⟩, rfl⟩, rfl⟩
      exact ⟨.inr ⟨r, member, rfl⟩, rfl⟩
  rw [counted, perm.length_eq, List.length_map]

end Table

/-- A database that starts empty, after any writes. It has a key exactly if one of the records was
written for its point, and gives the last of these; what it has can be read, and what it can read it
has. Writing a record twice is writing it once, and a symbol, in any case, has as many points as were
written for it. -/
theorem store_refines_map (records : List Record) :
    ∃ db, store.putAll records empty = (.ok (), db) ∧
      (∀ key, db.has key = .ok (records.any fun r => r.key.SamePoint key)) ∧
      (∀ key, ∃ found, db.find? key = .ok found ∧
        Option.Rel Record.ReadAs (records.findRev? fun r => r.key.SamePoint key) found ∧
        store.lookup db key = .ok (found.elim .absent .hit)) ∧
      (∀ r, ∃ once, db.put r = .ok once ∧ once.put r = .ok once) ∧
      ∀ symbol, db.count symbol = .ok ((records.filter fun r => r.key.symbol = .of symbol).map
        fun r => (r.key.date, r.key.slot.text)).dedup.length := by
  let t := Table.empty.putEach records
  have filled : t.Filled := Table.Filled.empty.putEach records
  refine ⟨⟨some t⟩, store_putAll _ records, ?_, ?_, ?_, ?_⟩
  · intro key
    refine (store_has t key).trans (congrArg Except.ok ?_)
    rw [filled.has_eq, Table.held_writes, Option.isSome_map, List.findRev?_eq_find?_reverse,
      List.isSome_find?, List.any_reverse]
  · intro key
    refine ⟨t.held key, store_find? filled key, ?_, store_lookup filled key⟩
    rw [Table.held_writes]
    cases records.findRev? fun r => r.key.SamePoint key with
    | none => exact .none
    | some r => exact .some r.readAs_readBack
  · intro r
    refine ⟨⟨some (t.put r)⟩, rfl, ?_⟩
    change Except.ok (⟨some ((t.put r).put r)⟩ : Database) = _
    rw [filled.put_put]
  · intro symbol
    exact congrArg Except.ok (Table.count_writes records (.of symbol))

end Database

end PriceHistory
