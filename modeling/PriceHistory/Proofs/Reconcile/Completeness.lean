import PriceHistory.Proofs.Calendar.Order
import PriceHistory.Proofs.Database.Collation
import PriceHistory.Proofs.Database.Store
import PriceHistory.Proofs.Query.Plan
import PriceHistory.Proofs.Reconcile.Run

/-!
What the marker of a complete day says where writes may fail. The marker is the minute 10:50 of the
day itself, so it is written among the other points, and a write that fails after it leaves a day that
is marked and has only the points written until then.
-/
namespace PriceHistory.Exchange

open PriceHistory.Calendar PriceHistory.Database

variable {τ : Type} {exchange : Exchange (Nat × Database) (StateM τ)} {faults : Interruptions}
  {t : Table} {symbol : String} {day : Date}

/-- Filing the first of some points stores all those of a day exactly if each of the others that is of
that day is stored from before or shares its minute with one of the first. -/
theorem filed_complete_iff {points : List Record} {passed : Nat} :
    (∀ p ∈ points, p.key.date = day →
      (t.putEach ((points.take passed).map (·.filedUnder symbol))).has
        (.of symbol day p.key.slot) = true) ↔
      ∀ p ∈ points.drop passed, p.key.date = day → t.has (.of symbol day p.key.slot) = true ∨
        ∃ q ∈ points.take passed, q.key.date = day ∧ q.key.slot.text = p.key.slot.text := by
  constructor
  · intro complete p late dated
    exact Table.has_filed.mp (complete p (List.mem_of_mem_drop late) dated)
  · intro covered p member dated
    apply Table.has_filed.mpr
    -- A point that is written shares its minute with itself.
    rw [← List.take_append_drop passed points, List.mem_append] at member
    rcases member with early | late
    · exact .inr ⟨p, early, dated, rfl⟩
    · exact covered p late dated

/-- An unmarked day goes to the provider, unless looking for the marker fails. -/
theorem storedDay?_unmarked (faulty : exchange.store = Database.store.interrupted faults)
    (unmarked : t.has (.of symbol day .marker) = false) (tried : Nat) :
    exchange.storedDay? (tried, ⟨some t⟩) symbol day =
      match faults.looking (.of symbol day .marker) with
      | some e => .error e
      | none => .ok none := by
  have looked : exchange.store.has (tried, ⟨some t⟩) (.of symbol day .marker) =
      match faults.looking (.of symbol day .marker) with
      | some e => .error e
      | none => .ok false := by
    rw [faulty, ← unmarked]
    rfl
  rw [storedDay?, looked]
  cases faults.looking (.of symbol day .marker) <;> rfl

/-- A query for an unmarked day that goes to the provider files the points that are written before the
first fault, and no others. -/
theorem onDay_interrupted (faulty : exchange.store = Database.store.interrupted faults)
    (unmarked : t.has (.of symbol day .marker) = false) (tried : Nat) (span : Span) {source : τ}
    (reached : (exchange.onDay (tried, ⟨some t⟩) symbol span day source).1.requests ≠ [])
    {points : List Record} {later : τ}
    (answer : exchange.provider.chart (.onDay symbol span day) source = (.ok points, later)) :
    let call := exchange.onDay (tried, ⟨some t⟩) symbol span day source
    let passed := faults.passed tried points.length
    call.1.store.2 = ⟨some (t.putEach ((points.take passed).map (·.filedUnder symbol)))⟩ ∧
      ((∃ records, call.1.result = .ok records) → passed = points.length) := by
  intro call passed
  have probe := storedDay?_unmarked faulty unmarked tried
  cases looked : faults.looking (.of symbol day .marker) with
  | some e =>
    -- The query ends before any request.
    rw [looked] at probe
    rw [onDay_of_failed probe] at reached
    exact absurd rfl reached
  | none =>
    rw [looked] at probe
    have ran : call = (exchange.received (.onDay symbol span day) (·.filedUnder symbol)
        (tried, ⟨some t⟩) (.ok points), later) := run_onDay_of_missing probe answer
    obtain ⟨stored, _, failed⟩ :=
      putAll_interrupted faults tried t (points.map (·.filedUnder symbol))
    rw [← faulty, List.length_map] at stored failed
    rw [ran]
    constructor
    · rw [List.map_take]
      exact stored
    · rintro ⟨records, success⟩
      by_cases short : passed < points.length
      · obtain ⟨e, outcome, _⟩ := failed short
        change (exchange.store.putAll _ _).1.map _ = _ at success
        rw [outcome] at success
        cases success
      · exact Nat.le_antisymm (Interruptions.passed_le _) (Nat.le_of_not_lt short)

/-- A query for an unmarked day, over any table and behind any faults, that goes to the provider. The
marker that it leaves can be relied on exactly if, where a point at 10:50 of that day is written before
the first fault, each point of the day that is not written is stored from before or shares its minute
with one that is written. A query that succeeds stores every point of the day. -/
theorem marker_reliable_iff (faulty : exchange.store = Database.store.interrupted faults)
    {query : PriceQuery} {today : Date} {span : Span}
    (planned : query.plan today = .minutes symbol span day)
    (unmarked : t.has (.of symbol day .marker) = false) (tried : Nat) {source : τ}
    (reached : (query.ask exchange (tried, ⟨some t⟩) today source).1.requests ≠ [])
    {points : List Record} {later : τ}
    (answer : exchange.provider.chart (.onDay symbol span day) source = (.ok points, later)) :
    let call := query.ask exchange (tried, ⟨some t⟩) today source
    let written := points.take (faults.passed tried points.length)
    let lost := points.drop (faults.passed tried points.length)
    ∃ after, call.1.store.2 = ⟨some after⟩ ∧
      ((after.has (.of symbol day .marker) = true →
          ∀ p ∈ points, p.key.date = day → after.has (.of symbol day p.key.slot) = true) ↔
        ((∃ q ∈ written, q.key.date = day ∧ q.key.slot.text = Slot.markerText) →
          ∀ p ∈ lost, p.key.date = day → t.has (.of symbol day p.key.slot) = true ∨
            ∃ q ∈ written, q.key.date = day ∧ q.key.slot.text = p.key.slot.text)) ∧
      ((∃ records, call.1.result = .ok records) →
        ∀ p ∈ points, p.key.date = day → after.has (.of symbol day p.key.slot) = true) := by
  intro call written lost
  have asked : query.ask exchange (tried, ⟨some t⟩) today =
      exchange.onDay (tried, ⟨some t⟩) symbol span day := by
    rw [PriceQuery.ask_eq_carryOut, planned]
    rfl
  rw [asked] at reached
  obtain ⟨stored, whole⟩ := onDay_interrupted faulty unmarked tried span reached answer
  rw [← asked] at stored whole
  refine ⟨_, stored, ?_, ?_⟩
  -- The day had no marker before, so the marker is one of the points that are written.
  · exact imp_congr (Table.marked_filed unmarked) filed_complete_iff
  · intro success p member dated
    apply Table.has_filed.mpr
    refine .inr ⟨p, ?_, dated, rfl⟩
    rw [whole success, List.take_length]
    exact member

/-- A minute of a Friday without trades, at so many minutes past ten. -/
private def pastTen (minute : Nat) : Record :=
  ⟨.of "aapl" (.ofJune 25) ((TimeOfDay.of? 10 minute).elim .wholeDay .minute), none, none, none, none, .zero⟩

/-- A provider that gives some points whatever it is asked for. -/
private def giving (points : List Record) : Provider (StateM Unit) :=
  ⟨fun _ => pure (.ok points), pure (.ok []), fun _ => pure (.ok [])⟩

/-- A database whose write number `n` fails, counted from zero. -/
private def failingAt (n : Nat) : Interruptions :=
  ⟨fun _ => none, fun _ => none, fun i =>
    if i = n then some (.database (.reported "disk full")) else none⟩

/-- The third of three writes fails, and its point is stored from before: the day is marked, and every
point of it is there. -/
theorem marker_reliable_after_fault :
    let points := [pastTen 51, pastTen 50, pastTen 52]
    let exchange := ⟨Database.store.interrupted (failingAt 2), giving points⟩
    let call := (PriceQuery.onDate "aapl" .byDate "20210625").ask exchange
      (0, ⟨some (Table.empty.put (pastTen 52))⟩) (.ofJune 25) ()
    ∃ after, call.1.store.2 = ⟨some after⟩ ∧
      after.has (.of "aapl" (.ofJune 25) .marker) = true ∧
      ∀ p ∈ points, p.key.date = .ofJune 25 → after.has (.of "aapl" (.ofJune 25) p.key.slot) = true := by
  intro points exchange call
  have faulty : exchange.store = Database.store.interrupted (failingAt 2) := rfl
  have read : Date.ofCompact? "20210625" = some (.ofJune 25) := by decide
  have planned : (PriceQuery.onDate "aapl" .byDate "20210625").plan (.ofJune 25) =
      .minutes "aapl" .byDate (.ofJune 25) := by
    rw [PriceQuery.plan, Plan.ofDate, read]
  have unmarked : (Table.empty.put (pastTen 52)).has (.of "aapl" (.ofJune 25) .marker) = false := by
    decide +kernel
  have reached : call.1.requests ≠ [] := by decide +kernel
  obtain ⟨after, stored, reliable, _⟩ := marker_reliable_iff faulty planned unmarked 0 reached rfl
  have marked : call.1.store.2.has (.of "aapl" (.ofJune 25) .marker) = .ok true := by decide +kernel
  rw [stored] at marked
  exact ⟨after, stored, Except.ok.inj marked, reliable.mpr (by decide +kernel) (Except.ok.inj marked)⟩

/-- The second of two writes fails: the day is marked, its second point is missing, and a later query
is answered with the first alone, without asking the provider again. -/
theorem marker_left_by_failed_query :
    let points := [pastTen 50, pastTen 51]
    let query : PriceQuery := .onDate "aapl" .byDate "20210625"
    let call := query.ask ⟨Database.store.interrupted (failingAt 1), giving points⟩
      (0, Database.empty) (.ofJune 25) ()
    let later := query.ask ⟨Database.store, giving points⟩ call.1.store.2 (.ofJune 25) ()
    call.1.requests = [.chart (.onDay "aapl" .byDate (.ofJune 25))] ∧
      Database.empty.has (.of "aapl" (.ofJune 25) .marker) = .ok false ∧
      call.1.store.2.has (.of "aapl" (.ofJune 25) .marker) = .ok true ∧
      call.1.store.2.has (pastTen 51).key = .ok false ∧
      later.1.result = .ok [pastTen 50] ∧ later.1.requests = [] := by
  decide +kernel

end PriceHistory.Exchange
