import PriceHistory.Database.Row
import PriceHistory.Proofs.Calendar.DateText
import PriceHistory.Proofs.Decimal.Text
import PriceHistory.Proofs.Slot

/-!
Rows that hold records, read back. A row gives the record that was written into it, in the slot that
its text is read as, and without the sign of a zero. Two keys are filed under the same cells exactly
if they are read back as the same key.
-/
namespace PriceHistory

/-- The key that a key's cells are read as. -/
def Key.readBack (key : Key) : Key :=
  { key with slot := key.slot.readBack }

namespace Record

/-- The record that a record's row is read as. -/
def readBack (r : Record) : Record where
  key := r.key.readBack
  openPrice := r.openPrice.map Decimal.readBack
  high := r.high.map Decimal.readBack
  low := r.low.map Decimal.readBack
  close := r.close.map Decimal.readBack
  volume := r.volume.readBack

/-- Every number of a record. -/
def numbers (r : Record) : List Decimal :=
  r.openPrice.toList ++ r.high.toList ++ r.low.toList ++ r.close.toList ++ [r.volume]

@[simp] theorem readBack_readBack (r : Record) : r.readBack.readBack = r.readBack := by
  simp [readBack, Key.readBack, Function.comp_def]

end Record

namespace Database

theorem RowKey.of_eq_iff {a b : Key} :
    RowKey.of a = RowKey.of b ↔ a.symbol = b.symbol ∧ a.date = b.date ∧ a.slot.text = b.slot.text := by
  have symbol : a.symbol.text = b.symbol.text ↔ a.symbol = b.symbol := by
    rw [Symbol.mk.injEq]
  simp [RowKey.of, symbol, Calendar.Date.canonical_inj]

/-- Two keys share their cells exactly if they are read back as one. -/
theorem RowKey.of_inj {a b : Key} : RowKey.of a = RowKey.of b ↔ a.readBack = b.readBack := by
  obtain ⟨symbol, date, slot⟩ := a
  obtain ⟨symbol', date', slot'⟩ := b
  simp [of_eq_iff, Key.readBack, Slot.readBack_inj]

@[simp] theorem RowKey.of_readBack (key : Key) : RowKey.of key.readBack = RowKey.of key := by
  simp [of, Key.readBack]

namespace Row

@[simp] theorem readDecimal_text (d : Decimal) : readDecimal d.text = .ok d.readBack := by
  simp [readDecimal]

@[simp] theorem readPrice_text (column : Column) (price : Option Decimal) :
    readPrice column (price.map fun d => .text d.text) = .ok (price.map Decimal.readBack) := by
  cases price <;> simp [readPrice, Cell.read, within, bind, Except.bind, pure, Except.pure]

/-- A row that holds a record can be read. -/
@[simp] theorem record?_of (r : Record) : (of r).record? = .ok r.readBack := by
  simp [record?, of, RowKey.of, RowValues.of, Cell.read, within, readDate, readSlot, bind,
    Except.bind, pure, Except.pure, Record.readBack, Key.of, Key.readBack]

@[simp] theorem of_key (r : Record) : (of r).key = .of r.key := rfl

private theorem text_readBack {d : Decimal} : d.readBack.text = d.text ↔ ¬d.IsSignedZero := by
  constructor
  · intro same zero
    have longer := congrArg (fun s : String => s.toList.length) same
    simp [Decimal.text, Decimal.readBack, Magnitude.signed, zero.1, zero.2] at longer
  · intro plain
    rw [Decimal.readBack_eq_self_iff.mpr plain]

/-- What is read back from a row makes up the same row again, unless a number is a zero with a minus
sign. -/
theorem of_readBack_iff {r : Record} :
    of r.readBack = of r ↔ ∀ d ∈ r.numbers, ¬d.IsSignedZero := by
  have price (p : Option Decimal) : ((p.map Decimal.readBack).map fun d => Cell.text d.text) =
      (p.map fun d => Cell.text d.text) ↔ ∀ d ∈ p, ¬d.IsSignedZero := by
    cases p <;> simp [text_readBack]
  simp only [of, RowKey.of_readBack, Record.readBack, RowValues.of, mk.injEq, RowValues.mk.injEq,
    price, Cell.text.injEq, text_readBack, Record.numbers, List.mem_append, Option.mem_toList,
    Option.mem_def, List.mem_singleton, true_and, or_imp, forall_and, forall_eq, and_assoc]

end Row

end Database

end PriceHistory
