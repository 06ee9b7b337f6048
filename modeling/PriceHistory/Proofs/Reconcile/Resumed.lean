import PriceHistory.Proofs.Reconcile.Days
import PriceHistory.Proofs.Reconcile.Steady

/-!
A query for the days of a span, made again until it succeeds. What an attempt has fetched is stored, and
so the next one starts at the day that failed. All attempts together leave the table of a single one that
nothing fails in, and the last one returns its records in another order.
-/
namespace PriceHistory

open PriceHistory.Calendar PriceHistory.Database

variable {τ : Type} {t : Table} {symbol : String} {point : Date → Record}

/-- A record whose key is read as it is, and none of whose numbers is a zero with a minus sign, is read
as it is. -/
theorem Record.readBack_eq_self {r : Record} (key : r.key.readBack = r.key)
    (unsigned : ∀ d ∈ r.numbers, ¬d.IsSignedZero) : r.readBack = r := by
  have price (p : Option Decimal) (plain : ∀ d ∈ p, ¬d.IsSignedZero) : p.map Decimal.readBack = p := by
    cases p with
    | none => rfl
    | some d => exact congrArg some (Decimal.readBack_eq_self_iff.mpr (plain d rfl))
  simp only [Record.numbers, List.mem_append, Option.mem_toList, List.mem_singleton, or_imp,
    forall_and, forall_eq] at unsigned
  obtain ⟨⟨⟨⟨opened, high⟩, low⟩, closed⟩, volume⟩ := unsigned
  rw [Record.readBack, key, price _ opened, price _ high, price _ low, price _ closed,
    Decimal.readBack_eq_self_iff.mpr volume]

namespace Exchange

variable {exchange : Exchange Database (StateM τ)} {today : Date} {span : Span}

namespace Attempted

variable {done rest : List Date}

/-- The records that an attempt returns are one for each day, and they are read alike however many of the
days were filed before it. -/
theorem readBack_perm (attempted : Attempted exchange t today symbol span point done rest) :
    (((t.withDays symbol point done).wholeDays symbol (queriedDays today span) ++
      rest.map fun day => (point day).filedByDay symbol).map Record.readBack).Perm
      ((queriedDays today span).map fun day =>
        ((t.held (.of symbol day .wholeDay)).getD ((point day).filedByDay symbol)).readBack) := by
  obtain ⟨_, filled, _, ⟨dated, _⟩, _, split⟩ := attempted
  let stored (day : Date) := (t.withDays symbol point done).held (.of symbol day .wholeDay)
  let told (day : Date) : Record :=
    ((t.held (.of symbol day .wholeDay)).getD ((point day).filedByDay symbol)).readBack
  have absent (day : Date) (member : day ∈ done ++ rest) : t.held (.of symbol day .wholeDay) = none := by
    rw [← split] at member
    simpa using (List.mem_filter.mp member).2
  -- A day that has been filed since is read back as its point, and any other as it was.
  have found : ((queriedDays today span).filterMap stored).map Record.readBack =
      ((queriedDays today span).filter fun day => (stored day).isSome).map told := by
    apply map_hits
    intro day _ record here
    simp only [stored] at here
    rw [filled.held_withDays dated] at here
    split at here
    next member =>
      cases here
      simp only [told, absent day (List.mem_append_left _ member), Option.getD_none,
        Record.readBack_readBack]
    next other => simp only [told, here, Option.getD_some]
  have fetched : (rest.map fun day => (point day).filedByDay symbol).map Record.readBack =
      rest.map told := by
    rw [List.map_map]
    apply List.map_congr_left
    intro day member
    simp only [told, absent day (List.mem_append_right _ member), Option.getD_none, Function.comp_apply]
  have missing : ((queriedDays today span).filter fun day => (stored day).isNone) = rest :=
    filled.missing_withDays dated (Date.nodup_daysBack _ _) split
  have parted := hits_append_missing_perm stored (queriedDays today span)
  rw [missing] at parted
  rw [List.map_append]
  change (((queriedDays today span).filterMap stored).map Record.readBack ++ _).Perm _
  rw [found, fetched, ← List.map_append]
  exact parted.map told

/-- Where no point has a zero with a minus sign, an attempt returns records as they are read. -/
theorem map_readBack_eq_self (attempted : Attempted exchange t today symbol span point done rest)
    (unsigned : ∀ day ∈ rest, ∀ d ∈ (point day).numbers, ¬d.IsSignedZero) :
    let records := (t.withDays symbol point done).wholeDays symbol (queriedDays today span) ++
      rest.map fun day => (point day).filedByDay symbol
    records.map Record.readBack = records := by
  intro records
  refine (List.map_congr_left fun r member => ?_).trans (List.map_id _)
  rcases List.mem_append.mp member with hit | own
  · obtain ⟨day, _, found⟩ := List.mem_filterMap.mp hit
    exact ((attempted.filled.withDays done).of_held_wholeDay found).2
  · obtain ⟨day, inside, rfl⟩ := List.mem_map.mp own
    exact Record.readBack_eq_self rfl (unsigned day inside)

/-- An attempt that succeeds after others leaves the table of one that comes after none. -/
theorem alike (attempted : Attempted exchange t today symbol span point [] (done ++ rest))
    {pace pace' : Pace} {source : τ} {records : List Record} {σ : Type} {calm : Exchange Database (StateM σ)}
    (calmly : Attempted calm t today symbol span point [] (done ++ rest)) {start : σ}
    {whole : List Record} :
    let last := exchange.overSpanAt pace ⟨some (t.withDays symbol point done)⟩ today symbol span source
    let single := calm.overSpanAt pace' ⟨some t⟩ today symbol span start
    last.1.result = .ok records → single.1.result = .ok whole →
    last.1.store = single.1.store ∧ (records.map Record.readBack).Perm (whole.map Record.readBack) ∧
      ((∀ day ∈ done ++ rest, ∀ d ∈ (point day).numbers, ¬d.IsSignedZero) → records.Perm whole) := by
  intro last single success wholly
  have advanced : Attempted exchange t today symbol span point done rest := attempted.advance
  obtain ⟨returned, lastStore⟩ := advanced.of_ok success
  obtain ⟨all, singleStore⟩ := calmly.of_ok wholly
  have perm : (records.map Record.readBack).Perm (whole.map Record.readBack) := by
    rw [returned, all]
    exact advanced.readBack_perm.trans calmly.readBack_perm.symm
  refine ⟨lastStore.trans singleStore.symm, perm, fun unsigned => ?_⟩
  have own : records.map Record.readBack = records := by
    rw [returned]
    exact advanced.map_readBack_eq_self fun day member => unsigned day (List.mem_append_right _ member)
  have others : whole.map Record.readBack = whole := by
    rw [all]
    exact calmly.map_readBack_eq_self unsigned
  rwa [own, others] at perm

end Attempted

/-- Lists that each give up some of their first members, up to an empty one, part the first of them. -/
theorem flatMap_range_of_parts {α : Type} {left part : ℕ → List α} {n : ℕ}
    (parts : ∀ i ≤ n, left i = part i ++ left (i + 1)) (none : left (n + 1) = []) :
    (List.range (n + 1)).flatMap part = left 0 := by
  have upTo (k : ℕ) (le : k ≤ n + 1) : left 0 = (List.range k).flatMap part ++ left k := by
    induction k with
    | zero => rfl
    | succ k ih =>
      rw [ih (Nat.le_of_succ_le le), parts k (Nat.le_of_succ_le_succ le), List.range_succ,
        List.flatMap_append, List.flatMap_singleton, List.append_assoc]
  rw [upTo (n + 1) (Nat.le_refl _), none, List.append_nil]

/-- The same query for a span of more than one day, made until it succeeds, over a table that nothing but
writes has filled and that holds a day of the window. The provider has one point for each day, and may fail
for any; each attempt has a pace of its own. An attempt asks for the first of the days that miss a record. It
files the points of those before the one that fails, at which the next attempt starts; the answers for those
behind it, fewer than may be under way at once, are dropped. So all attempts together file each missing day
once. The last one leaves the table of a single attempt in which nothing fails, and returns the records of
that one in some order, save for the minus signs of zeros. -/
theorem overSpan_resumes (plain : exchange.store = Database.store) (filled : t.Filled) (today : Date)
    {span : Span} (several : span ≠ .oneDay) (steady : exchange.provider.Steady symbol point)
    (paces : ℕ → Pace) (source : τ) (n : ℕ) {records : List Record} :
    let window := (if span = .byDate then Span.oneMonth else span).window (anchor today)
    let asked (day : Date) := ChartRequest.wholeDay symbol .oneMonth day
    let left := exchange.attempts paces today symbol span (⟨some t⟩, source)
    let attempt (i : ℕ) := exchange.overSpanAt (paces i) (left i).1 today symbol span (left i).2
    let missing (i : ℕ) := window.filter fun day => (exchange.storedWhole? (left i).1 symbol day).isNone
    (∃ day ∈ window, (exchange.storedWhole? ⟨some t⟩ symbol day).isSome) →
    (∀ i < n, ∃ e, (attempt i).1.result = .error e) → (attempt n).1.result = .ok records →
    (∃ fetched : ℕ → List Date, (List.range (n + 1)).flatMap fetched = missing 0 ∧ (missing 0).Nodup ∧
      ∀ i ≤ n, ∃ heard,
        exchange.recorded.overSpanAt (paces i) (left i).1 today symbol span ((left i).2, []) =
          ((attempt i).1, (attempt i).2, (fetched i).map (Provider.steadyAnswer symbol point) ++ heard) ∧
        (∃ days, days <+: missing i ∧ (attempt i).1.requests = days.map fun day => .chart (asked day)) ∧
        missing i = fetched i ++ missing (i + 1) ∧ (i = n → heard = []) ∧
        ∀ e, (attempt i).1.result = .error e → ∃ failing late rest dropped,
          missing (i + 1) = failing :: (late ++ rest) ∧ late.length < (paces i).width ∧
          heard = ⟨asked failing, .error e⟩ :: dropped ∧ dropped.map Heard.request = late.map asked ∧
          (attempt (i + 1)).1.requests.head? = some (.chart (asked failing))) ∧
    ∀ {σ : Type} (calm : Exchange Database (StateM σ)) (pace : Pace) (start : σ),
      calm.store = Database.store →
      (∀ day before, (calm.provider.chart (asked day) before).1 = .ok [point day]) →
      let single := calm.overSpanAt pace ⟨some t⟩ today symbol span start
      ∃ whole, single.1.result = .ok whole ∧ (attempt n).1.store = single.1.store ∧
        (records.map Record.readBack).Perm (whole.map Record.readBack) ∧
        ((∀ day ∈ missing 0, ∀ d ∈ (point day).numbers, ¬d.IsSignedZero) → records.Perm whole) := by
  intro window asked left attempt missing cached failing success
  have whole : exchange.storedWhole? ⟨some t⟩ symbol = fun day => t.held (.of symbol day .wholeDay) :=
    funext (storedWhole?_filled plain filled symbol)
  have attempted : Attempted exchange t today symbol span point [] (missing 0) := by
    refine ⟨plain, filled, several, steady, ?_, ?_⟩
    · rwa [whole] at cached
    · change _ = (window.filter fun day => (exchange.storedWhole? ⟨some t⟩ symbol day).isNone)
      rw [whole]
      rfl
  -- One attempt, from what the ones before it have left.
  have each (i : ℕ) (le : i ≤ n) : ∃ fetched heard,
      exchange.recorded.overSpanAt (paces i) (left i).1 today symbol span ((left i).2, []) =
        ((attempt i).1, (attempt i).2, fetched.map (Provider.steadyAnswer symbol point) ++ heard) ∧
      (∃ days, days <+: missing i ∧ (attempt i).1.requests = days.map fun day => .chart (asked day)) ∧
      missing i = fetched ++ missing (i + 1) ∧ (i = n → heard = [] ∧ missing (i + 1) = []) ∧
      ∀ e, (attempt i).1.result = .error e → ∃ failing late rest dropped,
        missing (i + 1) = failing :: (late ++ rest) ∧ late.length < (paces i).width ∧
        heard = ⟨asked failing, .error e⟩ :: dropped ∧ dropped.map Heard.request = late.map asked ∧
        (attempt (i + 1)).1.requests.head? = some (.chart (asked failing)) := by
    obtain ⟨done, others, later, parted, (here : left i = _)⟩ := attempted.after paces source i
    have advanced : Attempted exchange t today symbol span point done others := (parted ▸ attempted).advance
    have now : missing i = others := by
      simp only [missing, here]
      exact advanced.missing_eq
    obtain ⟨fetched, heard, behind, rfl, stored, noted, only, fine, ended⟩ :=
      advanced.attempt (paces i) (paces (i + 1)) later
    have ran : attempt i = exchange.overSpanAt (paces i) ⟨some (t.withDays symbol point done)⟩ today symbol
        span later := by
      simp only [attempt, here]
    have next : left (i + 1) = ((attempt i).1.store, (attempt i).2) := rfl
    have behind' : missing (i + 1) = behind := by
      simp only [missing, next, ran, stored]
      exact advanced.advance.missing_eq
    rw [← ran] at noted only fine ended stored
    refine ⟨fetched, heard, ?_, ?_, ?_, ?_, ?_⟩
    · rw [← noted, here]
    · rwa [now]
    · rw [now, behind']
    · rintro rfl
      rw [behind']
      exact (fine records success).symm
    · rw [behind']
      exact ended
  choose! fetched heard each using each
  refine ⟨⟨fetched, ?_, ?_, fun i le => ?_⟩, ?_⟩
  · exact flatMap_range_of_parts (fun i le => (each i le).2.2.1) ((each n (Nat.le_refl n)).2.2.2.1 rfl).2
  · exact (Date.nodup_daysBack _ _).filter _
  · obtain ⟨noted, only, parted, last, ended⟩ := each i le
    exact ⟨heard i, noted, only, parted, fun same => (last same).1, ended⟩
  · intro σ calm pace start quiet never single
    have calmly : Attempted calm t today symbol span point [] (missing 0) := by
      refine ⟨quiet, filled, several, ⟨steady.dated, fun day before points after answered => ?_⟩,
        attempted.cached, attempted.split⟩
      have answer := never day before
      rw [answered] at answer
      exact Except.ok.inj answer
    cases ended : single.1.result with
    | error e =>
      obtain ⟨day, before, _, answered⟩ := calmly.of_error ended
      have answer := never day before
      rw [answered] at answer
      cases answer
    | ok whole =>
      obtain ⟨done, rest, later, parted, (here : left n = _)⟩ := attempted.after paces source n
      have last : attempt n = exchange.overSpanAt (paces n) ⟨some (t.withDays symbol point done)⟩ today symbol
          span later := by
        simp only [attempt, here]
      rw [parted] at attempted calmly ⊢
      obtain ⟨stores, perm, exactly⟩ := attempted.alike calmly (last ▸ success) ended
      exact ⟨whole, rfl, (congrArg (·.1.store) last).trans stores, perm, exactly⟩

/-- A point of a day as a whole. -/
private def closesAt (close : Option Decimal) (day : Date) : Record :=
  ⟨.of "aapl" day .wholeDay, none, none, none, close, .zero⟩

/-- A provider that has one point of each day. It counts requests, and fails for some. -/
private def faltering (fails : Nat → Bool) (close : Option Decimal) : Provider (StateM Nat) where
  chart
    | .wholeDay _ _ day => fun n =>
      (if fails n then .error (.provider (.network "timed out")) else .ok [closesAt close day], n + 1)
    | _ => fun n => (.ok [], n + 1)
  listings := pure (.ok [])
  lastTrades _ := pure (.ok [])

private theorem steady_faltering (fails : Nat → Bool) (close : Option Decimal) :
    (faltering fails close).Steady "aapl" (closesAt close) where
  dated _ := rfl
  same day before points after answered := by
    simp only [faltering] at answered
    cases failing : fails before with
    | true =>
      rw [failing] at answered
      cases answered
    | false =>
      rw [failing] at answered
      cases answered
      rfl

/-- Of five days the 23rd is stored. The 24th fails in two attempts, each with the 22nd under way behind it,
and a third succeeds. -/
theorem overSpan_resumes_third_attempt :
    let exchange : Exchange Database (StateM Nat) :=
      ⟨Database.store, faltering (fun n => n = 1 ∨ n = 3) none⟩
    let calm : Exchange Database (StateM Nat) := ⟨Database.store, faltering (fun _ => false) none⟩
    let t := Table.empty.put (closesAt none (.ofJune 23))
    let left := exchange.attempts (fun _ => .aheadBy 1) (.ofJune 26) "aapl" .fiveDays (⟨some t⟩, 0)
    let attempt (i : ℕ) := exchange.overSpanAt (.aheadBy 1) (left i).1 (.ofJune 26) "aapl" .fiveDays (left i).2
    let single := calm.overSpanAt .inTurn ⟨some t⟩ (.ofJune 26) "aapl" .fiveDays 0
    let asked (day : ℕ) := Request.chart (.wholeDay "aapl" .oneMonth (.ofJune day))
    (attempt 0).1.requests = [asked 25, asked 24, asked 22] ∧
      (attempt 1).1.requests = [asked 24, asked 22] ∧
      (attempt 2).1.requests = [asked 24, asked 22, asked 21] ∧
      (attempt 2).1.store = single.1.store ∧ ∃ records whole, (attempt 2).1.result = .ok records ∧
        single.1.result = .ok whole ∧ records.Perm whole ∧ records ≠ whole := by
  intro exchange calm t left attempt single asked
  have plain : exchange.store = Database.store := rfl
  have filled : t.Filled := .put .empty _
  have success : (attempt 2).1.result =
      .ok ([25, 23, 24, 22, 21].map fun day => closesAt none (.ofJune day)) := by
    decide +kernel
  have failing : ∀ i < 2, (attempt i).1.result = .error (.provider (.network "timed out")) := by
    decide +kernel
  obtain ⟨_, same⟩ := overSpan_resumes plain filled (.ofJune 26)
    (show Span.fiveDays ≠ .oneDay by decide) (steady_faltering _ none) (fun _ => .aheadBy 1) 0 2
    (by decide +kernel) (fun i early => ⟨_, failing i early⟩) success
  obtain ⟨whole, result, stores, _, exactly⟩ := same calm .inTurn 0 rfl fun _ _ => rfl
  refine ⟨?_, ?_, ?_, stores, _, whole, success, result, exactly ?_, ?_⟩
  · decide +kernel
  · decide +kernel
  · decide +kernel
  · decide +kernel
  · have returned : single.1.result =
        .ok ([23, 25, 24, 22, 21].map fun day => closesAt none (.ofJune day)) := by
      decide +kernel
    rw [← Except.ok.inj (returned.symm.trans result)]
    decide +kernel

/-- Each day has a point that closes at a zero with a minus sign. The first attempt fetches the 25th and fails
for the 24th, with the 22nd under way. The second asks for the 22nd again, which both times is answered, and
returns the 25th without the sign, with which one attempt without a failure returns it. -/
theorem resumed_loses_sign :
    let close : Option Decimal := some { (Decimal.of? 0 28).getD .zero with negative := true }
    let exchange : Exchange Database (StateM Nat) := ⟨Database.store, faltering (· = 1) close⟩
    let calm : Exchange Database (StateM Nat) := ⟨Database.store, faltering (fun _ => false) close⟩
    let t := Table.empty.put (closesAt none (.ofJune 23))
    let first := exchange.overSpanAt (.aheadBy 1) ⟨some t⟩ (.ofJune 26) "aapl" .fiveDays 0
    let second := exchange.overSpanAt (.aheadBy 1) first.1.store (.ofJune 26) "aapl" .fiveDays first.2
    let single := calm.overSpan ⟨some t⟩ (.ofJune 26) "aapl" .fiveDays 0
    let asked (day : ℕ) := ChartRequest.wholeDay "aapl" .oneMonth (.ofJune day)
    calm.provider.Steady "aapl" (closesAt close) ∧ exchange.provider.Steady "aapl" (closesAt close) ∧
      first.1.requests = [.chart (asked 25), .chart (asked 24), .chart (asked 22)] ∧
      (exchange.provider.chart (asked 22) 2).1 = .ok [closesAt close (.ofJune 22)] ∧
      second.1.requests = [.chart (asked 24), .chart (asked 22), .chart (asked 21)] ∧
      ∃ records whole, second.1.result = .ok records ∧ single.1.result = .ok whole ∧
        ¬(records.map (·.close.map Decimal.text)).Perm (whole.map (·.close.map Decimal.text)) := by
  intro close exchange calm t first second single asked
  refine ⟨steady_faltering _ close, steady_faltering _ close, by decide +kernel, by decide +kernel,
    by decide +kernel, (closesAt close (.ofJune 25)).readBack :: closesAt none (.ofJune 23) ::
      [24, 22, 21].map fun day => closesAt close (.ofJune day),
    closesAt none (.ofJune 23) :: [25, 24, 22, 21].map fun day => closesAt close (.ofJune day), ?_⟩
  decide +kernel

end Exchange

end PriceHistory
