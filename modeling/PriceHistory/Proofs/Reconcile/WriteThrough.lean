import PriceHistory.Proofs.Calendar.Order
import PriceHistory.Proofs.Reconcile.Heard

/-!
What a query that succeeds leaves in a database whose table nothing but writes has filled. The table
tells the same as if the records returned had been written into it one after another, whether they came
from it or from the provider.
-/
namespace PriceHistory.Exchange

open PriceHistory.Calendar PriceHistory.Database

variable {τ : Type} {exchange : Exchange Database (StateM τ)} {t : Table}

/-- Does an outcome consist of records that a table holds, and after them of those that were written
into the table? -/
def WrittenThrough (t : Table) (outcome : Outcome Database (List Record)) (records : List Record) :
    Prop :=
  ∃ served fetched, records = served ++ fetched ∧ (∀ r ∈ served, ∃ key, t.held key = some r) ∧
    outcome.store = ⟨some (t.putEach fetched)⟩

/-- A query that succeeds returns records that the table holds, and after them those that it has
written into the table. -/
theorem carryOut_writtenThrough (plain : exchange.store = Database.store) (filled : t.Filled)
    (plan : Plan) (today : Date) {source : τ} {records : List Record}
    (success : (plan.carryOut exchange ⟨some t⟩ today source).1.result = .ok records) :
    WrittenThrough t (plan.carryOut exchange ⟨some t⟩ today source).1 records := by
  cases read : plan.errand exchange ⟨some t⟩ today with
  | error e =>
    rw [Plan.carryOut_of_error read] at success
    cases success
  | ok found =>
    obtain ⟨served, requests⟩ := found
    obtain ⟨heard, result, later, serves, ran, _⟩ := carryOut_serves plain read source
    rw [ran] at success ⊢
    cases result with
    | error e => cases success
    | ok fetched =>
      cases success
      refine ⟨served, fetched, rfl, held_of_errand plain filled read, ?_⟩
      rw [serves.of_ok.2.1]

/-- A query that succeeds with some records leaves a table that tells the same as the one before with
those records written into it in their order, and that is this very table where no row which is read as
one of them has a zero with a minus sign. Rows under other keys are the same as before, no key is taken
away, and each key gives the last record returned for its cells, else what it gave before. -/
theorem ask_writes_through (plain : exchange.store = Database.store) (filled : t.Filled)
    (query : PriceQuery) (today : Date) {source : τ} {records : List Record}
    (success : (query.ask exchange ⟨some t⟩ today source).1.result = .ok records) :
    ∃ after, (query.ask exchange ⟨some t⟩ today source).1.store = ⟨some after⟩ ∧
      after.reading = (t.putEach records).reading ∧
      ((∀ r ∈ records, t.UnsignedAt r) → after = t.putEach records) ∧
      (∀ row : Row, (∀ r ∈ records, row.key ≠ .of r.key) → (row ∈ after.rows ↔ row ∈ t.rows)) ∧
      t.rows.map Row.key <+: after.rows.map Row.key ∧
      ∀ key, after.find? key = .ok
        (((records.findRev? fun r => RowKey.of r.key = .of key).map Record.readBack).or
          (t.held key)) := by
  rw [PriceQuery.ask_eq_carryOut] at success ⊢
  obtain ⟨served, fetched, rfl, held, stored⟩ := carryOut_writtenThrough plain filled _ today success
  -- Writing the records served first would change nothing that the table tells.
  have told : (t.putEach fetched).reading = (t.putEach (served ++ fetched)).reading := by
    rw [Table.putEach_append]
    exact Table.reading_putEach (Table.collation_putEach t served).symm
      (filled.reading_putEach_held held).symm fetched
  refine ⟨t.putEach fetched, stored, told, ?_, ?_, ?_, ?_⟩
  · intro unsigned
    rw [Table.putEach_append, filled.putEach_held _ held]
    intro r member
    exact unsigned r (List.mem_append_left fetched member)
  · intro row other
    apply filled.keyed.mem_rows_putEach_of_other
    intro r member
    exact other r (List.mem_append_right served member)
  · exact Table.keys_prefix_putEach t fetched
  · intro key
    rw [(filled.putEach fetched).find?_eq, ← filled.held_putEach]
    exact congrArg Except.ok (Table.held_eq_of_reading (by simp) told key)

/-- A record of a day as a whole, without prices. -/
private def wholeDay (day : Nat) (volume : Decimal) : Record :=
  ⟨.of "aapl" (.ofJune day) .wholeDay, none, none, none, none, volume⟩

/-- A provider whose answer to every request is one point of the same day. -/
private def stuckAt (day : Nat) (volume : Decimal) : Provider (StateM Unit) :=
  ⟨fun _ => pure (.ok [wholeDay day volume]), pure (.ok []), fun _ => pure (.ok [])⟩

/-- One of five days is stored, and the points fetched for each of the others overwrite it. -/
theorem ask_writes_through_overwritten :
    let one : Decimal := (Decimal.of? 1 0).getD .zero
    let t := Table.empty.put (wholeDay 24 .zero)
    let records := wholeDay 24 .zero :: List.replicate 4 (wholeDay 24 one)
    let call := (PriceQuery.overSpan "aapl" .fiveDays).ask ⟨Database.store, stuckAt 24 one⟩ ⟨some t⟩
      (.ofJune 26) ()
    call.1.result = .ok records ∧ ∃ after, call.1.store = ⟨some after⟩ ∧
      after = t.putEach records ∧ after.find? (wholeDay 24 .zero).key = .ok (some (wholeDay 24 one)) := by
  intro one t records call
  have success : call.1.result = .ok records := by decide +kernel
  have filled : t.Filled := .put .empty _
  have unsigned : ∀ r ∈ records, t.UnsignedAt r := by
    simp only [filled.unsignedAt_iff]
    decide +kernel
  obtain ⟨after, stored, _, same, _, _, found⟩ := ask_writes_through rfl filled _ _ success
  refine ⟨success, after, stored, same unsigned, (found _).trans ?_⟩
  decide +kernel

/-- A bar at 10:50 that closes at a zero with a minus sign, as rounding to 28 places may leave it. -/
private def belowZero : Record :=
  ⟨.of "aapl" (.ofJune 25) (.minute Slot.markerTime), none, none, none,
    some { (Decimal.of? 0 28).getD .zero with negative := true }, .zero⟩

/-- A day is filed with such a bar and then served. The table stays as it is, and writing the record
served into it would change a row. -/
theorem served_zero_without_sign :
    let query : PriceQuery := .onDate "aapl" .byDate "20210625"
    let exchange : Exchange Database (StateM Unit) :=
      ⟨Database.store, ⟨fun _ => pure (.ok [belowZero]), pure (.ok []), fun _ => pure (.ok [])⟩⟩
    let first := query.ask exchange Database.empty (.ofJune 26) ()
    let second := query.ask exchange first.1.store (.ofJune 26) ()
    let t := Table.empty.put belowZero
    t.Filled ∧ first.1.store = ⟨some t⟩ ∧ second.1.store = ⟨some t⟩ ∧ second.1.requests = [] ∧
      ∃ records, second.1.result = .ok records ∧ t.putEach records ≠ t := by
  refine ⟨.put .empty _, ?_, ?_, ?_, [belowZero.readBack], ?_⟩ <;> decide +kernel

end PriceHistory.Exchange
