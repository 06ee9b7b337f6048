import PriceHistory.Proofs.Calendar.Order
import PriceHistory.Proofs.Calendar.TimeOfDay
import PriceHistory.Proofs.Reconcile.Run

/-!
Minutes of one day over contents that contradict themselves: a key may be said to be there, and reading it
gives nothing. A day is served from such contents as a whole or not at all.
-/
namespace PriceHistory.Exchange

open PriceHistory.Calendar

variable {σ : Type} {there : Key → Bool} {found : Key → Option Record} {s : σ} {symbol : String} {day : Date}

section

variable {m : Type → Type} {exchange : Exchange σ m}

/-- A scan stops at the first minute that is there and cannot be read. -/
theorem scanMinutes_of_torn (answers : exchange.store.Answers s there found) {times : List TimeOfDay}
    (torn : ∃ time ∈ times, there (.of symbol day (.minute time)) = true ∧
      found (.of symbol day (.minute time)) = none) :
    exchange.scanMinutes s symbol day times = .ok none := by
  induction times with
  | nil => simp at torn
  | cons time rest ih =>
    rw [List.exists_mem_cons_iff] at torn
    cases here : there (.of symbol day (.minute time)) with
    | false =>
      rw [here] at torn
      rw [scanMinutes, answers.lookup_of_absent here]
      exact ih (torn.resolve_left fun both => Bool.false_ne_true both.1)
    | true =>
      rw [scanMinutes, answers.lookup_of_present here]
      cases read : found (.of symbol day (.minute time)) with
      | none => rfl
      | some record =>
        -- What was collected up to here is dropped with the rest.
        rw [read] at torn
        have later := ih (torn.resolve_left fun both => Option.some_ne_none record both.2)
        change (exchange.scanMinutes s symbol day rest >>= _) = _
        rw [later]
        rfl

/-- A scan that meets no such minute gives what is there. -/
theorem scanMinutes_of_whole (answers : exchange.store.Answers s there found) {times : List TimeOfDay}
    (whole : ∀ time ∈ times, ¬(there (.of symbol day (.minute time)) = true ∧
      found (.of symbol day (.minute time)) = none)) :
    exchange.scanMinutes s symbol day times = .ok (some (times.filterMap fun time =>
      if there (.of symbol day (.minute time)) then found (.of symbol day (.minute time)) else none)) := by
  induction times with
  | nil => rfl
  | cons time rest ih =>
    rw [List.forall_mem_cons] at whole
    have later := ih whole.2
    cases here : there (.of symbol day (.minute time)) with
    | false =>
      rw [scanMinutes, answers.lookup_of_absent here, List.filterMap_cons_none (by simp [here])]
      exact later
    | true =>
      cases read : found (.of symbol day (.minute time)) with
      | none => exact absurd ⟨here, read⟩ whole.1
      | some record =>
        rw [scanMinutes, answers.lookup_of_present here, read,
          List.filterMap_cons_some (by rw [if_pos here, read])]
        change (exchange.scanMinutes s symbol day rest >>= _) = _
        rw [later]
        rfl

theorem storedDay?_of_unmarked (answers : exchange.store.Answers s there found)
    (unmarked : there (.of symbol day .marker) = false) : exchange.storedDay? s symbol day = .ok none := by
  rw [storedDay?, answers.looking, unmarked]
  rfl

theorem storedDay?_of_marked (answers : exchange.store.Answers s there found)
    (marked : there (.of symbol day .marker) = true) : exchange.storedDay? s symbol day =
      exchange.scanMinutes s symbol day TimeOfDay.sessionMinutes := by
  rw [storedDay?, answers.looking, marked]
  rfl

end

variable {τ : Type} {exchange : Exchange σ (StateM τ)}

/-- A query for the minutes of a date, where nothing fails, and where the answers about the marker and
about each minute may contradict each other. The minutes of the session are those from 09:30 to 16:00, in
ascending order. Where the marker is missing, or a minute of the session is there and cannot be read, there is
one request; its points are written in their order, each under the symbol in uppercase, its own date and its
own slot, and they are the answer. Else there is no request and no write, and the answer is what is there for
the minutes of the session, in their order. -/
theorem onDate_whole_or_fetched (answers : exchange.store.Answers s there found) {text : String}
    (read : Date.ofCompact? text = some day) (symbol : String) (span : Span) {before after : τ}
    {points : List Record}
    (answered : exchange.provider.chart (.onDay symbol span day) before = (.ok points, after)) :
    let key (time : TimeOfDay) := Key.of symbol day (.minute time)
    let torn := ∃ time ∈ TimeOfDay.sessionMinutes, there (key time) = true ∧ found (key time) = none
    let marked := there (.of symbol day .marker) = true
    let filed := points.map fun point => { point with key := .of symbol point.key.date point.key.slot }
    let stored := TimeOfDay.sessionMinutes.filterMap fun time =>
      if there (key time) then found (key time) else none
    let call := exchange.onDate s symbol span text before
    (TimeOfDay.sessionMinutes.map (·.sinceMidnight) = List.range' (9 * 60 + 30) 391) ∧
    (¬marked ∨ torn → call.1.requests = [.chart (.onDay symbol span day)] ∧ call.2 = after ∧
      call.1.store = filed.foldl (fun s record => (exchange.store.put s record).2) s ∧
      call.1.result = .ok filed) ∧
    (marked ∧ ¬torn → call.1.requests = [] ∧ call.2 = before ∧ call.1.store = s ∧
      call.1.result = .ok stored ∧
      ∀ r ∈ stored, ∃ time ∈ TimeOfDay.sessionMinutes, there (key time) = true ∧ found (key time) = some r) := by
  intro key torn marked filed stored call
  have ran : call = exchange.onDay s symbol span day before := by
    change exchange.onDate s symbol span text before = _
    rw [onDate, read]
  refine ⟨TimeOfDay.map_sinceMidnight_sessionMinutes, fun missed => ?_, fun ⟨marked, whole⟩ => ?_⟩
  · have missing : exchange.storedDay? s symbol day = .ok none := by
      by_cases known : marked
      · rw [storedDay?_of_marked answers known]
        exact scanMinutes_of_torn answers (missed.resolve_left (not_not_intro known))
      · exact storedDay?_of_unmarked answers (Bool.eq_false_iff.mpr known)
    have taken := answers.writing filed
    have received : exchange.received (.onDay symbol span day) (·.filedUnder symbol) s (.ok points) =
        ⟨.ok filed, (exchange.store.putAll filed s).2, [.chart (.onDay symbol span day)]⟩ :=
      file_of_taken taken _
    rw [ran, run_onDay_of_missing missing answered, received]
    exact ⟨rfl, rfl, Store.putAll_eq_foldl taken, rfl⟩
  · have served : exchange.storedDay? s symbol day = .ok (some stored) := by
      rw [storedDay?_of_marked answers marked]
      exact scanMinutes_of_whole answers fun time member both => whole ⟨time, member, both⟩
    rw [ran, onDay_of_stored served]
    refine ⟨rfl, rfl, rfl, rfl, fun r member => ?_⟩
    obtain ⟨time, inside, given⟩ := List.mem_filterMap.mp member
    obtain ⟨here, read⟩ := Option.ite_none_right_eq_some.mp given
    exact ⟨time, inside, here, read⟩

/-- A store that has some keys and can read some records. It logs what is written. -/
private def logging (present : List Key) (readable : List Record) : Store (List Record) where
  has _ key := .ok (decide (key ∈ present))
  find? _ key := .ok (readable.find? (·.key = key))
  put written r := (.ok (), written ++ [r])

private theorem logging_answers (present : List Key) (readable written : List Record) :
    (logging present readable).Answers written (fun key => decide (key ∈ present))
      (fun key => readable.find? (·.key = key)) where
  looking _ := rfl
  reading _ := rfl
  writing records := by
    have reliable : (logging present readable).Reliable fun _ => True :=
      ⟨fun _ _ _ => ⟨_, rfl⟩, fun _ _ _ => ⟨_, rfl⟩, fun _ _ _ => ⟨rfl, trivial⟩⟩
    exact (reliable.putAll trivial records).1

/-- Its provider gives some points whatever it is asked for, and counts requests. -/
private def loggingExchange (present : List Key) (points readable : List Record) :
    Exchange (List Record) (StateM Nat) :=
  ⟨logging present readable, ⟨fun _ asked => (.ok points, asked + 1), pure (.ok []), fun _ => pure (.ok [])⟩⟩

/-- A record without prices. -/
private def unpriced (key : Key) : Record :=
  ⟨key, none, none, none, none, .zero⟩

/-- The last minute of the session is there, and once it can be read and once it cannot. -/
theorem onDate_whole_or_fetched_last_minute :
    let day : Date := .ofJune 25
    let bar (symbol : String) (hour minute : Nat) : Record :=
      unpriced (.of symbol day ((TimeOfDay.of? hour minute).elim .wholeDay .minute))
    let first := bar "MSFT" 9 30
    let last := bar "MSFT" 16 0
    let late (symbol : String) := bar symbol 17 0
    let exchange := loggingExchange [.of "msft" day .marker, last.key, first.key] [late "aapl", first]
    let call (readable : List Record) := (exchange readable).onDate [] "msft" .byDate "20210625" 0
    ((call [last, first]).1.requests = [] ∧ (call [last, first]).2 = 0 ∧ (call [last, first]).1.store = [] ∧
      (call [last, first]).1.result = .ok [first, last]) ∧
    (call [first]).1.requests = [.chart (.onDay "msft" .byDate day)] ∧ (call [first]).2 = 1 ∧
      (call [first]).1.store = [late "MSFT", first] ∧ (call [first]).1.result = .ok [late "MSFT", first] := by
  intro day bar first last late exchange
  dsimp only
  have read : Date.ofCompact? "20210625" = some day := by decide +kernel
  have answered (readable : List Record) : (exchange readable).provider.chart (.onDay "msft" .byDate day) 0 =
      (.ok [late "aapl", first], 1) := rfl
  have answers (readable : List Record) : (exchange readable).store.Answers [] _ _ :=
    logging_answers _ readable []
  obtain ⟨-, -, served⟩ :=
    onDate_whole_or_fetched (answers [last, first]) read "msft" .byDate (answered [last, first])
  obtain ⟨-, fetched, -⟩ := onDate_whole_or_fetched (answers [first]) read "msft" .byDate (answered [first])
  constructor
  · obtain ⟨requests, asked, kept, result, -⟩ := served ⟨by decide +kernel, by decide +kernel⟩
    exact ⟨requests, asked, kept, result.trans (by decide +kernel)⟩
  · have torn : ∃ time ∈ TimeOfDay.sessionMinutes, decide (Key.of "msft" day (.minute time) ∈
        [.of "msft" day .marker, last.key, first.key]) = true ∧
        [first].find? (·.key = .of "msft" day (.minute time)) = none :=
      ⟨⟨16, 0, by omega, by omega⟩, TimeOfDay.mem_sessionMinutes.mpr (by decide), by decide +kernel,
        by decide +kernel⟩
    obtain ⟨requests, asked, written, result⟩ := fetched (.inr torn)
    exact ⟨requests, asked, written.trans (by decide +kernel), result.trans (by decide +kernel)⟩

end PriceHistory.Exchange
