import PriceHistory.Proofs.Database.Table

/-!
Keys of one symbol under any comparison of key cells. The written dates and slots end in digits, so no
comparison takes two of them for the same.
-/
namespace PriceHistory.Database

open PriceHistory.Calendar PriceHistory.Text

/-- A text that ends in a numeral counts in all its characters. -/
theorem Collation.significant_padded (collation : Collation) (front : List Char) (c : Char)
    (width n : Nat) : collation.significant (String.ofList (front ++ c :: padded width n)) =
      String.ofList (front ++ c :: padded width n) := by
  cases collation with
  | exact => rfl
  | trailingSpacesIgnored =>
    -- Read from its end the text starts with a digit, so there are no spaces to drop.
    obtain ⟨last, earlier, ending⟩ := List.exists_cons_of_ne_nil
      (List.reverse_ne_nil_iff.mpr (padded_ne_nil width n))
    have digit : last.isDigit = true := by
      apply isDigit_of_mem_padded
      rw [← List.mem_reverse, ending]
      exact List.mem_cons_self
    have visible : (last == ' ') = false := by
      apply beq_eq_false_iff_ne.mpr
      rintro rfl
      cases digit
    unfold significant
    simp only [String.toList_ofList, List.reverse_append, List.reverse_cons, ending,
      List.cons_append, List.dropWhile_cons, visible]
    rw [← List.cons_append, ← List.cons_append, ← ending]
    simp

theorem Collation.significant_canonical (collation : Collation) (d : Date) :
    collation.significant d.canonical = d.canonical :=
  significant_padded collation (Date.yearText d.year ++ '-' :: padded 2 d.month) '-' 2 d.day

theorem Collation.significant_slot (collation : Collation) (slot : Slot) :
    collation.significant slot.text = slot.text := by
  cases slot with
  | minute time => exact significant_padded collation (padded 2 time.hour) ':' 2 time.minute
  | wholeDay | marker => cases collation <;> decide

/-- Two keys of one symbol are filed in one row exactly if their dates and the texts of their slots
agree. -/
theorem RowKey.same_of_iff {collation : Collation} {a b : Key} (symbol : a.symbol = b.symbol) :
    (RowKey.of a).same collation (.of b) = true ↔ a.date = b.date ∧ a.slot.text = b.slot.text := by
  rw [same_iff]
  simp [significant, of, symbol, Cell.significant, Collation.significant_canonical,
    Collation.significant_slot, Date.canonical_inj]

/-- After some points are filed under a symbol, a table has a point of a day exactly if it had it
before, or one of them is of that day and its slot has the same text. -/
theorem Table.has_filed {t : Table} {symbol : String} {day : Date} {points : List Record} {slot : Slot} :
    (t.putEach (points.map (·.filedUnder symbol))).has (.of symbol day slot) = true ↔
      t.has (.of symbol day slot) = true ∨
        ∃ q ∈ points, q.key.date = day ∧ q.key.slot.text = slot.text := by
  have cells (q : Record) : (RowKey.of (q.filedUnder symbol).key).same t.collation
      (.of (.of symbol day slot)) = true ↔ q.key.date = day ∧ q.key.slot.text = slot.text :=
    RowKey.same_of_iff rfl
  rw [has_putEach]
  apply or_congr_right
  constructor
  · rintro ⟨filed, member, same⟩
    obtain ⟨q, inside, rfl⟩ := List.mem_map.mp member
    exact ⟨q, inside, (cells q).mp same⟩
  · rintro ⟨q, inside, same⟩
    exact ⟨q.filedUnder symbol, List.mem_map_of_mem inside, (cells q).mpr same⟩

/-- Points that are filed mark an unmarked day exactly if one of them is its minute 10:50. -/
theorem Table.marked_filed {t : Table} {symbol : String} {day : Date} {points : List Record}
    (unmarked : t.has (.of symbol day .marker) = false) :
    (t.putEach (points.map (·.filedUnder symbol))).has (.of symbol day .marker) = true ↔
      ∃ q ∈ points, q.key.date = day ∧ q.key.slot.text = Slot.markerText := by
  rw [has_filed, unmarked]
  exact or_iff_right (by decide)

end PriceHistory.Database
