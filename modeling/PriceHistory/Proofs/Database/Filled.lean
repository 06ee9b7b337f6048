import PriceHistory.Proofs.Database.Keyed

/-!
Tables that nothing but writes has filled. Each of their rows holds a record, no two rows have the
same key cells, and the record under a key is the last one written under its cells. A record that is
read from such a table and written into it again changes no row, the sign of a zero aside.
-/
namespace PriceHistory.Database.Table

/-- A table of the cache's own layout that nothing but writes has filled. -/
inductive Filled : Table → Prop where
  | empty : Filled .empty
  | put {t : Table} (filled : Filled t) (r : Record) : Filled (t.put r)

theorem Filled.putEach {t : Table} (filled : Filled t) (records : List Record) :
    Filled (t.putEach records) := by
  induction records generalizing t with
  | nil => exact filled
  | cons r records ih => exact ih (filled.put r)

theorem Filled.keyed {t : Table} (filled : Filled t) : t.Keyed := by
  induction filled with
  | empty => exact .empty
  | put _ r ih => exact ih.put r

/-- Every row of a filled table holds a record. -/
theorem Filled.row_of {t : Table} (filled : Filled t) : ∀ row ∈ t.rows, ∃ r, row = Row.of r := by
  induction filled with
  | empty =>
    intro row member
    cases member
  | put filled r ih =>
    rw [filled.keyed.rows_put]
    split
    · intro row member
      obtain ⟨old, inside, rfl⟩ := List.mem_map.mp member
      obtain ⟨before, rfl⟩ := ih old inside
      -- A row that is written over has the key cells of the record, and so becomes its row.
      split
      next same => exact ⟨r, by rw [same]; rfl⟩
      · exact ⟨before, rfl⟩
    · intro row member
      rcases List.mem_append.mp member with old | new
      · exact ih row old
      · exact ⟨r, List.mem_singleton.mp new⟩

/-! ### The record under a key -/

/-- The record that is read from the row under a key, where there is such a row. -/
def held (t : Table) (key : Key) : Option Record :=
  (t.row? (.of key)).bind fun row => row.record?.toOption

theorem Filled.held_eq_some_iff {t : Table} (filled : Filled t) {key : Key} {r : Record} :
    t.held key = some r ↔
      ∃ written, Row.of written ∈ t.rows ∧ RowKey.of written.key = .of key ∧ written.readBack = r := by
  unfold held
  constructor
  · intro found
    obtain ⟨row, inside, read⟩ := Option.bind_eq_some_iff.mp found
    obtain ⟨member, same⟩ := filled.keyed.row?_eq_some_iff.mp inside
    obtain ⟨written, rfl⟩ := filled.row_of row member
    exact ⟨written, member, same, by simpa [Except.toOption] using read⟩
  · rintro ⟨written, member, same, rfl⟩
    rw [filled.keyed.row?_eq_some_iff.mpr ⟨member, same⟩]
    simp [Except.toOption]

theorem Filled.has_eq {t : Table} (filled : Filled t) (key : Key) :
    t.has key = (t.held key).isSome := by
  unfold has held
  cases found : t.row? (.of key) with
  | none => rfl
  | some row =>
    obtain ⟨written, rfl⟩ := filled.row_of row (filled.keyed.row?_eq_some_iff.mp found).1
    simp [Except.toOption]

theorem Filled.find?_eq {t : Table} (filled : Filled t) (key : Key) :
    t.find? key = .ok (t.held key) := by
  unfold find? held
  cases found : t.row? (.of key) with
  | none => rfl
  | some row =>
    obtain ⟨written, rfl⟩ := filled.row_of row (filled.keyed.row?_eq_some_iff.mp found).1
    simp [Except.toOption, Except.map]

/-- After a write, the record written is under its key, and nothing changes under the others. -/
theorem Filled.held_put {t : Table} (filled : Filled t) (r : Record) (key : Key) :
    (t.put r).held key =
      if RowKey.of r.key = .of key then some r.readBack else t.held key := by
  have same : (RowKey.of r.key).same t.collation (.of key) = true ↔ RowKey.of r.key = .of key := by
    rw [filled.keyed.exact, RowKey.same_exact, decide_eq_true_eq]
  unfold held
  split
  next here =>
    -- A row that is written over has the key cells of the record already.
    have row : overwritten r (t.row? (.of r.key)) = Row.of r := by
      cases found : t.row? (.of r.key) with
      | none => rfl
      | some old =>
        have cells : old.key = .of r.key := (filled.keyed.row?_eq_some_iff.mp found).2
        rw [overwritten, cells]
        rfl
    rw [row?_put_of_same (same.mpr here), row]
    simp [Except.toOption]
  next elsewhere => rw [row?_put_of_apart (elsewhere ∘ same.mp)]

/-- After writes, the last record written under the cells of a key is there, and what was there
before where none was. -/
theorem Filled.held_putEach {t : Table} (filled : Filled t) (records : List Record) (key : Key) :
    (t.putEach records).held key =
      ((records.findRev? fun r => RowKey.of r.key = .of key).map Record.readBack).or
        (t.held key) := by
  induction records generalizing t with
  | nil => rfl
  | cons r records ih =>
    rw [putEach_cons, ih (filled.put r), filled.held_put, List.findRev?]
    cases records.findRev? fun r => RowKey.of r.key = .of key with
    | some later => rfl
    | none => by_cases here : RowKey.of r.key = .of key <;> simp [here]

/-! ### Writing what was read -/

/-- What a table tells: the key cells of each row, and the record that the row is read as. -/
def reading (t : Table) : List (RowKey × Except TableFault Record) :=
  t.rows.map fun row => (row.key, row.record?)

private theorem has_eq_of_reading {a b : Table} (collations : a.collation = b.collation)
    (readings : a.reading = b.reading) (key : Key) : a.has key = b.has key := by
  have keys : a.rows.map Row.key = b.rows.map Row.key := by
    simpa [reading, Function.comp_def] using congrArg (List.map Prod.fst) readings
  rw [Bool.eq_iff_iff, has_iff, has_iff, keys, collations]

theorem held_eq_of_reading {a b : Table} (collations : a.collation = b.collation)
    (readings : a.reading = b.reading) (key : Key) : a.held key = b.held key := by
  have told (t : Table) : t.held key =
      (t.reading.find? fun entry => entry.1.same t.collation (.of key)).bind (·.2.toOption) := by
    simp only [held, row?, reading, List.find?_map, Function.comp_def]
    cases t.rows.find? fun row => row.key.same t.collation (.of key) <;> rfl
  rw [told a, told b, readings, collations]

/-- A write goes the same way in tables that tell the same. -/
theorem reading_put {a b : Table} (collations : a.collation = b.collation)
    (readings : a.reading = b.reading) (r : Record) : (a.put r).reading = (b.put r).reading := by
  have present := has_eq_of_reading collations readings r.key
  by_cases there : a.has r.key = true
  -- Both tables are written over in the same places, or both get one row more.
  · let told : RowKey × Except TableFault Record → RowKey × Except TableFault Record :=
      fun (key, record) => if key.same a.collation (.of r.key) then
        (key, Row.record? ⟨key, .of r⟩) else (key, record)
    have overwritten (t : Table) (collation : t.collation = a.collation)
        (there : t.has r.key = true) : (t.put r).reading = t.reading.map told := by
      simp only [reading, rows_put_of_has there, List.map_map, collation]
      apply List.map_congr_left
      intro old _
      simp only [Function.comp_apply, told]
      split <;> rfl
    rw [overwritten a rfl there, overwritten b collations.symm (present ▸ there), readings]
  · have appended (t : Table) (missing : ¬t.has r.key = true) :
        (t.put r).reading = t.reading ++ [(.of r.key, (Row.of r).record?)] := by
      simp [reading, rows_put_of_not_has missing]
    rw [appended a there, appended b (present ▸ there), readings]

theorem reading_putEach {a b : Table} (collations : a.collation = b.collation)
    (readings : a.reading = b.reading) (records : List Record) :
    (a.putEach records).reading = (b.putEach records).reading := by
  induction records generalizing a b with
  | nil => exact readings
  | cons r records ih => exact ih (by simp [collations]) (reading_put collations readings r)

theorem Filled.rows_put_readBack {t : Table} (filled : Filled t) {written : Record}
    (member : Row.of written ∈ t.rows) : (t.put written.readBack).rows =
      t.rows.map fun old => if old = Row.of written then Row.of written.readBack else old := by
  have cells : RowKey.of written.readBack.key = (Row.of written).key := RowKey.of_readBack _
  have present : t.has written.readBack.key = true :=
    filled.keyed.has_iff_mem.mpr ⟨_, member, cells.symm⟩
  rw [filled.keyed.rows_put, if_pos present]
  apply List.map_congr_left
  intro old inside
  by_cases here : old.key = .of written.readBack.key
  · have own : old = Row.of written :=
      List.inj_on_of_nodup_map filled.keyed.nodup inside member (here.trans cells)
    rw [if_pos here, if_pos own, here]
    rfl
  · have other : old ≠ Row.of written := by
      rintro rfl
      exact here cells.symm
    rw [if_neg here, if_neg other]

theorem Filled.reading_put_held {t : Table} (filled : Filled t) {key : Key} {r : Record}
    (found : t.held key = some r) : (t.put r).reading = t.reading := by
  obtain ⟨written, member, _, rfl⟩ := filled.held_eq_some_iff.mp found
  simp only [reading, filled.rows_put_readBack member, List.map_map]
  apply List.map_congr_left
  intro old _
  simp only [Function.comp_apply]
  split
  next own =>
    have cells : RowKey.of written.readBack.key = .of written.key := RowKey.of_readBack _
    simp [own, cells]
  · rfl

/-- Is every row that is read as a record free of zeros with a minus sign? -/
def UnsignedAt (t : Table) (r : Record) : Prop :=
  ∀ written, Row.of written ∈ t.rows → written.readBack = r → ∀ d ∈ written.numbers, ¬d.IsSignedZero

theorem Filled.unsignedAt_iff {t : Table} (filled : Filled t) {r : Record} :
    t.UnsignedAt r ↔ ∀ row ∈ t.rows, row.record? = .ok r → row = Row.of r := by
  constructor
  · intro unsigned row member read
    obtain ⟨written, rfl⟩ := filled.row_of row member
    have same : written.readBack = r := by simpa using read
    have rewritten := Row.of_readBack_iff.mpr (unsigned written member same)
    rw [← rewritten, same]
  · rintro rewritten written member rfl
    exact Row.of_readBack_iff.mp (rewritten _ member (Row.record?_of written)).symm

/-- Writing a record that was read changes nothing where no zero of its row has a minus sign. -/
theorem Filled.put_held {t : Table} (filled : Filled t) {key : Key} {r : Record}
    (unsigned : t.UnsignedAt r) (found : t.held key = some r) : t.put r = t := by
  obtain ⟨written, member, _, rfl⟩ := filled.held_eq_some_iff.mp found
  have same : Row.of written = Row.of written.readBack :=
    filled.unsignedAt_iff.mp unsigned _ member (Row.record?_of written)
  have rows : (t.put written.readBack).rows = t.rows := by
    rw [filled.rows_put_readBack member]
    refine (List.map_congr_left fun old _ => ?_).trans (List.map_id _)
    split
    next own => rw [← same, own, id]
    · rfl
  exact eq_of_rows (collation_put t _) rows

/-- Writing records that were read, one after another, leaves a table that tells the same. -/
theorem Filled.reading_putEach_held {t : Table} (filled : Filled t) {records : List Record}
    (found : ∀ r ∈ records, ∃ key, t.held key = some r) :
    (t.putEach records).reading = t.reading := by
  induction records with
  | nil => rfl
  | cons r records ih =>
    obtain ⟨key, here⟩ := found r List.mem_cons_self
    -- The later writes cannot tell the table after the first from the one before it.
    rw [putEach_cons, reading_putEach (collation_put t r) (filled.reading_put_held here)]
    exact ih fun other member => found other (List.mem_cons_of_mem r member)

theorem Filled.putEach_held {t : Table} (filled : Filled t) {records : List Record}
    (unsigned : ∀ r ∈ records, t.UnsignedAt r)
    (found : ∀ r ∈ records, ∃ key, t.held key = some r) : t.putEach records = t := by
  induction records with
  | nil => rfl
  | cons r records ih =>
    obtain ⟨key, here⟩ := found r List.mem_cons_self
    rw [putEach_cons, filled.put_held (unsigned r List.mem_cons_self) here]
    exact ih (fun other member => unsigned other (List.mem_cons_of_mem r member))
      fun other member => found other (List.mem_cons_of_mem r member)

end PriceHistory.Database.Table
