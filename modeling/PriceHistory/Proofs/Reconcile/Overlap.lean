import PriceHistory.Proofs.Reconcile.Heard

/-!
Requests for days that overlap. Whatever is under way besides, requests start in the order of the days and
points are filed in this order, so it comes to one request after another. Only where a day fails does the
overlap show: days behind it have been asked for as well, and their answers are dropped.
-/
namespace PriceHistory

open PriceHistory.Calendar PriceHistory.Database

variable {σ τ : Type} {symbol : String}

/-- As many days as `n` are under way behind the one whose answer is awaited. So it is where a provider takes
its time. -/
def Pace.aheadBy (n : Nat) : Pace :=
  ⟨n + 1, fun _ => n, fun _ => Nat.lt_succ_self n, fun _ _ => Nat.le_succ n⟩

/-- The days that have been asked for behind the one that fails, where days in turn come to an outcome. -/
def Pace.overtaken (pace : Pace) (days : List Date) (inTurn : Outcome σ (List Record)) : List Date :=
  match inTurn.result with
  | .ok _ => []
  | .error _ =>
    let rest := days.drop inTurn.requests.length
    rest.take (pace.ahead rest)

theorem Pace.overtaken_prefix (pace : Pace) (days : List Date) (inTurn : Outcome σ (List Record)) :
    pace.overtaken days inTurn <+: days.drop inTurn.requests.length := by
  unfold overtaken
  split
  · exact List.nil_prefix
  · exact List.take_prefix _ _

theorem Pace.length_overtaken_lt (pace : Pace) (days : List Date) (inTurn : Outcome σ (List Record)) :
    (pace.overtaken days inTurn).length < pace.width := by
  unfold overtaken
  split
  · exact Nat.zero_lt_of_lt (pace.ahead_lt [])
  · exact (List.length_take_le _ _).trans_lt (pace.ahead_lt _)

namespace Exchange

variable {exchange : Exchange σ (StateM τ)}

/-! ### Asking for days -/

@[simp] theorem run_askDays_nil (t : τ) : exchange.askDays symbol [] t = ([], t) := rfl

theorem run_askDays_cons {day : Date} {t after : τ} {answer : Except Failure (List Record)}
    (answered : exchange.provider.chart (.wholeDay symbol .oneMonth day) t = (answer, after))
    (rest : List Date) :
    exchange.askDays symbol (day :: rest) t =
      (answer :: (exchange.askDays symbol rest after).1, (exchange.askDays symbol rest after).2) := by
  rw [askDays, List.mapM_cons]
  exact run_bind answered _

theorem run_askDays_append (first second : List Date) (t : τ) :
    exchange.askDays symbol (first ++ second) t =
      let asked := exchange.askDays symbol first t
      let others := exchange.askDays symbol second asked.2
      (asked.1 ++ others.1, others.2) := by
  induction first generalizing t with
  | nil => rfl
  | cons day rest ih =>
    cases answered : exchange.provider.chart (.wholeDay symbol .oneMonth day) t with
    | mk answer after =>
      rw [List.cons_append, run_askDays_cons answered, run_askDays_cons answered, ih]
      rfl

theorem length_askDays (days : List Date) (t : τ) :
    (exchange.askDays symbol days t).1.length = days.length := by
  induction days generalizing t with
  | nil => rfl
  | cons day rest ih =>
    cases answered : exchange.provider.chart (.wholeDay symbol .oneMonth day) t with
    | mk answer after => rw [run_askDays_cons answered, List.length_cons, ih, List.length_cons]

/-- Some of the first days have been asked for. Asking for the others of them completes the answers. -/
theorem run_askDays_take {days : List Date} {k n : ℕ} (le : k ≤ n) {t between : τ}
    {flight : List (Except Failure (List Record))}
    (asked : exchange.askDays symbol (days.take k) t = (flight, between)) :
    exchange.askDays symbol (days.take n) t =
      let more := exchange.askDays symbol ((days.take n).drop flight.length) between
      (flight ++ more.1, more.2) := by
  have long : (exchange.askDays symbol (days.take k) t).1.length = (days.take k).length :=
    length_askDays (days.take k) t
  rw [asked] at long
  have parted : days.take k ++ (days.take n).drop flight.length = days.take n := by
    rw [long]
    exact List.prefix_iff_eq_append.mp (List.take_prefix_take_left le)
  conv_lhs => rw [← parted, run_askDays_append, asked]

/-! ### Days in turn, and what overtakes them -/

theorem run_fetchDays_cons {day : Date} {t after : τ} {answer : Except Failure (List Record)}
    (answered : exchange.provider.chart (.wholeDay symbol .oneMonth day) t = (answer, after))
    (rest : List Date) (s : σ) :
    exchange.fetchDays symbol (day :: rest) s t =
      (exchange.received (.wholeDay symbol .oneMonth day) (·.filedByDay symbol) s answer).andThen
        (exchange.fetchDays symbol rest) after := by
  rw [fetchDays_cons]
  exact run_bind answered _

/-- Asks for some more days, whose answers are dropped. -/
def overtake (exchange : Exchange σ (StateM τ)) (symbol : String) (days : List Date)
    (call : Outcome σ (List Record) × τ) : Outcome σ (List Record) × τ :=
  ({ call.1 with requests := call.1.requests ++ days.map fun day => .chart (.wholeDay symbol .oneMonth day) },
    (exchange.askDays symbol days call.2).2)

theorem overtake_nil (call : Outcome σ (List Record) × τ) : exchange.overtake symbol [] call = call := by
  rw [overtake, List.map_nil, List.append_nil]
  rfl

theorem run_fetchDaysAt_cons (pace : Pace) {day : Date} {flight behind : List (Except Failure (List Record))}
    {t after : τ} {answer : Except Failure (List Record)}
    (next : exchange.nextAnswer symbol day flight t = ((answer, behind), after)) (rest : List Date) (s : σ) :
    exchange.fetchDaysAt pace symbol (day :: rest) flight s t =
      let soon := rest.take (pace.ahead rest)
      let more := exchange.askDays symbol (soon.drop behind.length) after
      let besides := soon.map fun day => .chart (.wholeDay symbol .oneMonth day)
      let first := exchange.received (.wholeDay symbol .oneMonth day) (·.filedByDay symbol) s answer
      match first.result with
      | .error _ => ({ first with requests := first.requests ++ besides }, more.2)
      | .ok _ => first.andThen (exchange.fetchDaysAt pace symbol rest (behind ++ more.1)) more.2 := by
  rw [fetchDaysAt, run_bind next]
  refine (run_bind (Prod.eta _).symm _).trans ?_
  cases answer with
  | error e => rfl
  | ok points =>
    simp only [received]
    generalize exchange.file _ _ s = filed
    obtain ⟨result, contents, requests⟩ := filed
    cases result <;> rfl

/-- Fetching days some of which are under way already. It comes to fetching them all in turn from where none
of them had been asked for. -/
theorem run_fetchDaysAt_under (pace : Pace) {days : List Date} {n : ℕ} (le : n ≤ pace.ahead days)
    {flight : List (Except Failure (List Record))} {source mid : τ}
    (asked : exchange.askDays symbol (days.take n) source = (flight, mid)) (s : σ) :
    exchange.fetchDaysAt pace symbol days flight s mid =
      let inTurn := exchange.fetchDays symbol days s source
      exchange.overtake symbol (pace.overtaken days inTurn.1) inTurn := by
  -- By induction on the days, for any number of them under way: the answers at hand are those of the first `n`
  -- days, and `n` is never more than the pace allows.
  induction days generalizing n flight source mid s with
  | nil =>
    rw [List.take_nil] at asked
    cases asked
    rw [fetchDays_nil]
    exact (overtake_nil _).symm
  | cons day rest ih =>
    cases answered : exchange.provider.chart (.wholeDay symbol .oneMonth day) source with
    | mk answer after =>
    -- The answer for the day is there or comes now, and then those for the days asked for behind it.
    obtain ⟨k, behind, now, le, asked, next⟩ : ∃ k behind now, k ≤ pace.ahead rest ∧
        exchange.askDays symbol (rest.take k) after = (behind, now) ∧
        exchange.nextAnswer symbol day flight mid = ((answer, behind), now) := by
      cases n with
      | zero =>
        cases asked
        refine ⟨0, [], after, Nat.zero_le _, rfl, ?_⟩
        exact congrArg (fun call : Except Failure (List Record) × τ => ((call.1, []), call.2)) answered
      | succ k =>
        rw [List.take_succ_cons, run_askDays_cons answered] at asked
        cases asked
        exact ⟨k, _, _, Nat.le_of_succ_le_succ (le.trans (pace.ahead_cons day rest)), rfl, rfl⟩
    have complete := run_askDays_take le asked
    have one : (exchange.received (.wholeDay symbol .oneMonth day) (·.filedByDay symbol) s answer).requests =
        [.chart (.wholeDay symbol .oneMonth day)] :=
      requests_received _ _ s answer
    rw [run_fetchDaysAt_cons pace next, run_fetchDays_cons answered]
    generalize exchange.received _ _ s answer = first at one
    obtain ⟨result, contents, requests⟩ := first
    obtain rfl : requests = _ := one
    cases result with
    | error e =>
      -- What has been asked for by now is just what has overtaken the day.
      refine Prod.ext rfl ?_
      change _ = (exchange.askDays symbol (rest.take (pace.ahead rest)) after).2
      rw [complete]
    | ok records =>
      refine (Outcome.run_andThen_of_ok rfl _ _).trans ?_
      rw [ih (Nat.le_refl _) complete contents, Outcome.run_andThen_of_ok rfl]
      generalize exchange.fetchDays symbol rest contents after = others
      obtain ⟨⟨result, contents, requests⟩, later⟩ := others
      cases result <;> rfl

/-- Days some of which are under way at once come to days in turn, and to asking for those that have been
overtaken. -/
theorem run_fetchDaysAt (pace : Pace) (symbol : String) (days : List Date) (s : σ) (source : τ) :
    exchange.fetchDaysAt pace symbol days [] s source =
      let inTurn := exchange.fetchDays symbol days s source
      exchange.overtake symbol (pace.overtaken days inTurn.1) inTurn :=
  run_fetchDaysAt_under pace (Nat.zero_le _) rfl s

theorem map_chart_request (heard : List Heard) :
    heard.map (.chart ·.request) = (heard.map Heard.request).map Request.chart := by
  rw [List.map_map]
  rfl

theorem askDays_recorded (symbol : String) (days : List Date) (t : τ) :
    ∃ dropped, dropped.map Heard.request = days.map (.wholeDay symbol .oneMonth) ∧ ∀ earlier,
      (exchange.recorded.askDays symbol days (t, earlier)).2 =
        ((exchange.askDays symbol days t).2, earlier ++ dropped) := by
  induction days generalizing t with
  | nil => exact ⟨[], rfl, fun earlier => by rw [List.append_nil]; rfl⟩
  | cons day rest ih =>
    cases answered : exchange.provider.chart (.wholeDay symbol .oneMonth day) t with
    | mk answer after =>
      obtain ⟨dropped, made, noted⟩ := ih after
      refine ⟨⟨.wholeDay symbol .oneMonth day, answer⟩ :: dropped, congrArg (_ :: ·) made, fun earlier => ?_⟩
      have first : exchange.recorded.provider.chart (.wholeDay symbol .oneMonth day) (t, earlier) =
          (answer, after, earlier ++ [⟨.wholeDay symbol .oneMonth day, answer⟩]) := by
        simp only [recorded, Provider.recorded, answered]
      rw [run_askDays_cons first, run_askDays_cons answered, noted, List.append_assoc]
      rfl

/-- How days go over a database some of which are under way at once, with the answers written down and
without. Where a day fails, the days that have been asked for behind it are dropped. -/
theorem fetchDaysAt_serves {exchange : Exchange Database (StateM τ)}
    (plain : exchange.store = Database.store) (pace : Pace) (symbol : String) (days : List Date) (t : Table)
    (source : τ) :
    ∃ heard result between late dropped,
      exchange.provider.Serves (days.map (.wholeDay symbol .oneMonth)) source heard result between ∧
      late <+: days.drop heard.length ∧ late.length < pace.width ∧
      ((∃ records, result = .ok records) → late = []) ∧
      dropped.map Heard.request = late.map (.wholeDay symbol .oneMonth) ∧
      let outcome : Outcome Database (List Record) :=
        ⟨result, ⟨some (t.putEach (heard.flatMap Heard.filed))⟩, (heard ++ dropped).map (.chart ·.request)⟩
      let later := (exchange.askDays symbol late between).2
      exchange.fetchDaysAt pace symbol days [] ⟨some t⟩ source = (outcome, later) ∧
      ∀ earlier, exchange.recorded.fetchDaysAt pace symbol days [] ⟨some t⟩ (source, earlier) =
        (outcome, later, earlier ++ heard ++ dropped) := by
  obtain ⟨heard, result, between, serves, ran, noted⟩ :=
    fetchEach_serves plain (days.map (.wholeDay symbol .oneMonth)) t source
  simp only [← fetchDays_eq_fetchEach] at ran noted
  let inTurn : Outcome Database (List Record) :=
    ⟨result, ⟨some (t.putEach (heard.flatMap Heard.filed))⟩, heard.map (.chart ·.request)⟩
  let late := pace.overtaken days inTurn
  obtain ⟨dropped, made, recorded⟩ := exchange.askDays_recorded symbol late between
  have besides : late.map (fun day => Request.chart (.wholeDay symbol .oneMonth day)) =
      dropped.map (.chart ·.request) := by
    rw [map_chart_request, made, List.map_map]
    rfl
  refine ⟨heard, result, between, late, dropped, serves, ?_, pace.length_overtaken_lt days inTurn, ?_, made,
    ?_, fun earlier => ?_⟩
  · have front := pace.overtaken_prefix days inTurn
    rwa [List.length_map] at front
  · rintro ⟨records, rfl⟩
    rfl
  · rw [run_fetchDaysAt, ran, List.map_append, ← besides]
    rfl
  · rw [run_fetchDaysAt, noted, List.map_append, ← besides]
    exact congrArg (_, ·) (recorded (earlier ++ heard))

end Exchange

end PriceHistory
