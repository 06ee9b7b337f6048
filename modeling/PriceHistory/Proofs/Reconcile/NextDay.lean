import PriceHistory.Proofs.Reconcile.Errand
import PriceHistory.Proofs.Span

/-!
A query for the days of a span, made again a day later. Where the window was stored to its last day,
the only day that may be left to fetch is the new one.
-/
namespace PriceHistory.Exchange

open PriceHistory.Calendar

variable {σ τ : Type} {exchange : Exchange σ (StateM τ)} {live : σ → Prop}

/-- The day before a day whose window has days in it. -/
private theorem pred?_eq_anchor {span : Span} {today : Date}
    (nonempty : span.window (anchor today) ≠ []) : today.pred? = some (anchor today) := by
  cases yesterday : today.pred? with
  | some before => rw [anchor, yesterday]; rfl
  | none =>
    -- On the earliest date a window ends with that date, and no day comes after its floor.
    obtain ⟨day, inside⟩ := List.exists_mem_of_ne_nil _ nonempty
    obtain ⟨after, upTo⟩ := Span.mem_window.mp inside
    rw [anchor, yesterday] at upTo after
    exact absurd (after.trans_le upTo) (Date.not_lt_of_pred?_eq_none yesterday)

/-- On the next day, only the day that is over by then may be left to fetch. -/
private theorem errand_next_day (reliable : exchange.store.Reliable live) {s : σ} (alive : live s)
    (symbol : String) {range : Span} {today tomorrow : Date} (next : tomorrow.pred? = some today)
    (nonempty : range.window (anchor today) ≠ [])
    (stored : ∀ day ∈ range.window (anchor today), (exchange.storedWhole? s symbol day).isSome) :
    (∀ day ∈ range.window (anchor tomorrow), day = today ∨ day ∈ range.window (anchor today)) ∧
    (Plan.days symbol range).errand exchange s tomorrow =
      .ok ((range.window (anchor tomorrow)).filterMap (exchange.storedWhole? s symbol),
        if (exchange.storedWhole? s symbol today).isNone then [.wholeDay symbol .oneMonth today]
        else []) := by
  have anchored : anchor tomorrow = today := by rw [anchor, next]; rfl
  obtain ⟨others, opened, filled, old⟩ := range.window_of_pred? (pred?_eq_anchor nonempty) nonempty
  have storedOthers : ∀ day ∈ others, (exchange.storedWhole? s symbol day).isSome :=
    fun day member => stored day (old day member)
  have begins : range.window (anchor tomorrow) = today :: others := anchored ▸ opened
  -- The days of the window before are stored, and one of them is still in the window.
  have served : (range.window (anchor tomorrow)).filterMap (exchange.storedWhole? s symbol) ≠ [] := by
    obtain ⟨first, member⟩ := List.exists_mem_of_ne_nil _ filled
    obtain ⟨record, here⟩ := Option.isSome_iff_exists.mp (storedOthers first member)
    apply List.ne_nil_of_mem (a := record)
    exact List.mem_filterMap.mpr ⟨first, begins ▸ List.mem_cons_of_mem _ member, here⟩
  have complete : (others.filter fun day => (exchange.storedWhole? s symbol day).isNone) = [] := by
    simpa [List.filter_eq_nil_iff, ← Option.isSome_iff_ne_none] using storedOthers
  constructor
  · rw [begins]
    intro day member
    exact (List.mem_cons.mp member).imp_right (old day)
  · rw [Plan.errand_days_of_some (fun day _ => reliable.lookup_ok alive _) served]
    congr 2
    rw [begins, List.filter_cons, complete]
    split <;> rfl

/-- A query for a span of more than one day, on the day after one on which the whole window of the span
was stored and had days in it. No day enters the window but the new last one. If that one is stored too
then nothing is asked for, and else it alone is; the stored records of the window come before its points. -/
theorem overSpan_next_day (reliable : exchange.store.Reliable live) {s : σ} (alive : live s)
    (symbol : String) {span : Span} (several : span ≠ .oneDay) {today tomorrow : Date}
    (next : tomorrow.pred? = some today) :
    let range := if span = .byDate then .oneMonth else span
    let window := range.window (anchor tomorrow)
    let hits := window.filterMap (exchange.storedWhole? s symbol)
    range.window (anchor today) ≠ [] →
    (∀ day ∈ range.window (anchor today), (exchange.storedWhole? s symbol day).isSome) →
    ((∀ day, day ∈ window ↔ range.floor today < day ∧ day ≤ today) ∧
      window.Pairwise fun newer older => older < newer) ∧
    (∀ day ∈ window, day = today ∨ day ∈ range.window (anchor today)) ∧
    ∀ source : τ,
      let call := exchange.overSpan s tomorrow symbol span source
      ((exchange.storedWhole? s symbol today).isSome → call = (⟨.ok hits, s, []⟩, source)) ∧
      (exchange.storedWhole? s symbol today = none →
        let answer := exchange.provider.chart (.wholeDay symbol .oneMonth today) source
        call.1.requests = [.chart (.wholeDay symbol .oneMonth today)] ∧ call.2 = answer.2 ∧
          call.1.result = answer.1.map fun points => hits ++ points.map (·.filedByDay symbol)) := by
  intro range window hits nonempty stored
  obtain ⟨old, read⟩ := errand_next_day reliable alive symbol next nonempty stored
  refine ⟨⟨fun day => ?_, Date.daysBack_pairwise _ _⟩, old, fun source => ?_⟩
  · have anchored : anchor tomorrow = today := by rw [anchor, next]; rfl
    rw [← anchored]
    exact Span.mem_window
  intro call
  have ran : call = (Outcome.map (hits ++ ·) <$> exchange.fetchEach
      (if (exchange.storedWhole? s symbol today).isNone then [.wholeDay symbol .oneMonth today]
        else []) s) source := by
    rw [← Plan.carryOut_of_ok read, Plan.carryOut_days_of_ne_oneDay exchange s _ symbol several]
  constructor
  · intro there
    rw [ran, if_neg (by simp [Option.isSome_iff_ne_none.mp there])]
    change (Outcome.map (hits ++ ·) (.quiet (.ok []) s), source) = _
    simp only [Outcome.map, Outcome.quiet, Except.map, List.append_nil]
  · intro absent answer
    rw [ran, if_pos (by simp [absent]), fetchEach_singleton]
    let outcome := Outcome.map (hits ++ ·)
      (exchange.received (.wholeDay symbol .oneMonth today) (·.filedByDay symbol) s answer.1)
    change outcome.requests = _ ∧ answer.2 = _ ∧ outcome.result = _
    unfold outcome
    cases answer.1 with
    | error e => exact ⟨rfl, rfl, rfl⟩
    | ok points =>
      rw [received, file_reliable reliable alive]
      exact ⟨rfl, rfl, rfl⟩

/-- The last day of March 2021. -/
private def marchEnd : Date :=
  (Date.of? 2021 3 31).getD .earliest

/-- A store that has a record of every day before that one. -/
private def untilMarchEnd : Store Unit where
  has _ key := .ok (key.date < marchEnd)
  find? _ key := .ok (if key.date < marchEnd then some ⟨key, none, none, none, none, .zero⟩ else none)
  put _ _ := (.ok (), ())

/-- A provider that has two points of every day. It counts requests. -/
private def twoPoints : Provider (StateM Nat) where
  chart
    | .wholeDay symbol _ day => fun n =>
      (.ok (List.replicate 2 ⟨.of symbol day .wholeDay, none, none, none, none, .zero⟩), n + 1)
    | _ => fun n => (.ok [], n + 1)
  listings := pure (.ok [])
  lastTrades _ := pure (.ok [])

/-- On the first of April a month still begins with the first of March, as it does on the day before. -/
theorem overSpan_next_day_april :
    let april : Date := (Date.of? 2021 4 1).getD .earliest
    let exchange : Exchange Unit (StateM Nat) := ⟨untilMarchEnd, twoPoints⟩
    let call := exchange.overSpan () april "aapl" .oneMonth 0
    Span.oneMonth.floor marchEnd = Span.oneMonth.floor (anchor marchEnd) ∧
      call.1.requests = [.chart (.wholeDay "aapl" .oneMonth marchEnd)] ∧ call.2 = 1 ∧
      call.1.result.map (·.length) = .ok 32 := by
  intro april exchange call
  have reliable : exchange.store.Reliable fun _ => True :=
    ⟨fun _ _ _ => ⟨_, rfl⟩, fun _ _ _ => ⟨_, rfl⟩, fun _ _ _ => ⟨rfl, trivial⟩⟩
  have next : april.pred? = some marchEnd := by decide
  obtain ⟨_, _, ran⟩ := overSpan_next_day reliable (s := ()) trivial "aapl"
    (show Span.oneMonth ≠ .oneDay by decide) next (by decide +kernel) (by decide +kernel)
  obtain ⟨requests, asked, result⟩ := (ran 0).2 (by decide +kernel)
  refine ⟨by decide +kernel, requests, asked, (congrArg (Except.map _) result).trans ?_⟩
  decide +kernel

end PriceHistory.Exchange
