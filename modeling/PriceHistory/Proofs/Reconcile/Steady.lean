import PriceHistory.Proofs.Calendar.Order
import PriceHistory.Proofs.Reconcile.FilledDays
import PriceHistory.Proofs.Reconcile.Sequence

/-!
Attempts at the days of a span, with a provider that has one point for each day but may fail for any of
them. Between attempts the days that were missing are parted in those that have been fetched and stored
since and those that are left, and an attempt goes on with the first of the latter.
-/
namespace PriceHistory

open PriceHistory.Calendar PriceHistory.Database

variable {σ τ : Type} {t : Table} {symbol : String} {point : Date → Record}

namespace Provider

/-- Does each day have one point dated to it, which every answer to a request for the day consists of?
Requests may still fail. -/
structure Steady (provider : Provider (StateM τ)) (symbol : String) (point : Date → Record) : Prop where
  dated : ∀ day, (point day).key.date = day
  same : ∀ day before points after,
    provider.chart (.wholeDay symbol .oneMonth day) before = (.ok points, after) → points = [point day]

/-- The answer for a day, where the request for it does not fail. -/
def steadyAnswer (symbol : String) (point : Date → Record) (day : Date) : Heard :=
  ⟨.wholeDay symbol .oneMonth day, .ok [point day]⟩

theorem points_steadyAnswer (days : List Date) :
    (days.map (steadyAnswer symbol point)).flatMap Heard.points = days.map point := by
  rw [List.flatMap_map]
  exact List.map_eq_flatMap.symm

theorem requests_steadyAnswer (days : List Date) :
    (days.map (steadyAnswer symbol point)).map Heard.request = days.map (.wholeDay symbol .oneMonth) := by
  rw [List.map_map]
  rfl

/-- How requests for days go: their points are fetched up to the first day that fails. -/
theorem Serves.of_steady {provider : Provider (StateM τ)} (steady : provider.Steady symbol point)
    {days : List Date} {start later : τ} {heard : List Heard} {result : Except Failure (List Record)}
    (serves : provider.Serves (days.map (.wholeDay symbol .oneMonth)) start heard result later) :
    (result = .ok (days.map fun day => (point day).filedByDay symbol) ∧
      heard = days.map (steadyAnswer symbol point)) ∨
    ∃ fetched failing rest e before, days = fetched ++ failing :: rest ∧ days.drop heard.length = rest ∧
      result = .error e ∧ heard = fetched.map (steadyAnswer symbol point) ++
        [⟨.wholeDay symbol .oneMonth failing, .error e⟩] ∧
      provider.chart (.wholeDay symbol .oneMonth failing) before = (.error e, later) := by
  induction days generalizing start heard result with
  | nil =>
    cases serves
    exact .inl ⟨rfl, rfl⟩
  | cons day days ih =>
    cases serves with
    | failed answered => exact .inr ⟨[], day, days, _, start, rfl, rfl, rfl, rfl, answered⟩
    | answered answered others =>
      obtain rfl := steady.same day _ _ _ answered
      rcases ih others with ⟨rfl, rfl⟩ | ⟨fetched, failing, rest, e, before, rfl, left, rfl, rfl, failed⟩
      · exact .inl ⟨rfl, rfl⟩
      · exact .inr ⟨day :: fetched, failing, rest, e, before, rfl, left, rfl, rfl, failed⟩

end Provider

namespace Database.Table

/-- A table with the points of some days filed into it. -/
def withDays (t : Table) (symbol : String) (point : Date → Record) (days : List Date) : Table :=
  t.putEach ((days.map point).map (·.filedByDay symbol))

theorem withDays_append (first second : List Date) :
    t.withDays symbol point (first ++ second) =
      (t.withDays symbol point first).withDays symbol point second := by
  rw [withDays, List.map_append, List.map_append, putEach_append]
  rfl

theorem Filled.withDays (filled : t.Filled) (days : List Date) :
    (t.withDays symbol point days).Filled :=
  filled.putEach _

theorem Filled.held_withDays (filled : t.Filled) (dated : ∀ day, (point day).key.date = day)
    (days : List Date) (day : Date) :
    (t.withDays symbol point days).held (.of symbol day .wholeDay) =
      if day ∈ days then some ((point day).filedByDay symbol).readBack
      else t.held (.of symbol day .wholeDay) := by
  have last : (days.map point).findRev? (fun p => p.key.date = day) =
      if day ∈ days then some (point day) else none := by
    rw [List.findRev?_eq_find?_reverse, ← List.map_reverse, List.find?_map]
    simp only [Function.comp_def, dated]
    cases found : days.reverse.find? fun other => decide (other = day) with
    | none =>
      have absent : day ∉ days := fun member => by
        simpa using List.find?_eq_none.mp found day (List.mem_reverse.mpr member)
      rw [if_neg absent]
      rfl
    | some other =>
      have same : other = day := by simpa using List.find?_some found
      have member : other ∈ days := List.mem_reverse.mp (List.mem_of_find?_eq_some found)
      rw [if_pos (same ▸ member), same]
      rfl
  rw [Table.withDays, held_filedByDay filled, last]
  split <;> rfl

/-- The records that a table holds for some days as a whole. -/
def wholeDays (t : Table) (symbol : String) (days : List Date) : List Record :=
  days.filterMap fun day => t.held (.of symbol day .wholeDay)

/-- The days that a table holds no record for as a whole. -/
def missing (t : Table) (symbol : String) (days : List Date) : List Date :=
  days.filter fun day => (t.held (.of symbol day .wholeDay)).isNone

/-- Of the days that were missing, those that have been filed since are no longer. -/
theorem Filled.missing_withDays (filled : t.Filled) (dated : ∀ day, (point day).key.date = day)
    {days done rest : List Date} (once : days.Nodup) (split : t.missing symbol days = done ++ rest) :
    (t.withDays symbol point done).missing symbol days = rest := by
  -- A day is still missing where it was and has not been filed.
  have left (day : Date) : ((t.withDays symbol point done).held (.of symbol day .wholeDay)).isNone =
      (!decide (day ∈ done) && (t.held (.of symbol day .wholeDay)).isNone) := by
    rw [filled.held_withDays dated]
    by_cases member : day ∈ done <;> simp [member]
  have apart : (done ++ rest).Nodup := split ▸ once.filter _
  have gone : done.filter (fun day => !decide (day ∈ done)) = [] := by
    simp [List.filter_eq_nil_iff]
  have kept : rest.filter (fun day => !decide (day ∈ done)) = rest := by
    rw [List.filter_eq_self]
    intro day member
    simpa using fun own => (List.nodup_append.mp apart).2.2 day own day member rfl
  calc (t.withDays symbol point done).missing symbol days
      = (t.missing symbol days).filter fun day => !decide (day ∈ done) := by
        rw [missing, missing, List.filter_filter]
        simp only [left]
    _ = rest := by rw [split, List.filter_append, gone, kept, List.nil_append]

end Database.Table

/-! ### Attempts -/

namespace Exchange

/-- The days that a query for a span of more than one day is about. -/
def queriedDays (today : Date) (span : Span) : List Date :=
  (if span = .byDate then Span.oneMonth else span).window (anchor today)

variable {exchange : Exchange Database (StateM τ)} {today : Date} {span : Span}

/-- A query for the days of a span that may have been attempted before. Of the days that a table misses
some have been filed into it, and the others are left; the provider is steady, and a day was stored all
along. -/
structure Attempted (exchange : Exchange Database (StateM τ)) (t : Table) (today : Date)
    (symbol : String) (span : Span) (point : Date → Record) (done rest : List Date) : Prop where
  plain : exchange.store = Database.store
  filled : t.Filled
  several : span ≠ .oneDay
  steady : exchange.provider.Steady symbol point
  cached : ∃ day ∈ queriedDays today span, (t.held (.of symbol day .wholeDay)).isSome
  split : t.missing symbol (queriedDays today span) = done ++ rest

namespace Attempted

variable {done rest : List Date}

/-- Some more days may be filed. -/
theorem advance {fetched others : List Date}
    (attempted : Attempted exchange t today symbol span point done (fetched ++ others)) :
    Attempted exchange t today symbol span point (done ++ fetched) others :=
  { attempted with split := attempted.split.trans (List.append_assoc _ _ _).symm }

/-- The days that are left are those that miss a record now. -/
theorem missing_eq (attempted : Attempted exchange t today symbol span point done rest) :
    ((queriedDays today span).filter fun day =>
      (exchange.storedWhole? ⟨some (t.withDays symbol point done)⟩ symbol day).isNone) = rest := by
  simp only [storedWhole?_filled attempted.plain (attempted.filled.withDays done)]
  exact attempted.filled.missing_withDays attempted.steady.dated (Date.nodup_daysBack _ _) attempted.split

/-- What the next attempt comes to. It fetches the days that are left, up to the first that fails; those that
are under way behind it are asked for and dropped. -/
theorem overSpanAt_cases (attempted : Attempted exchange t today symbol span point done rest) (pace : Pace)
    (source : τ) :
    let stored := t.withDays symbol point done
    ∃ fetched heard result later,
      let answers := fetched.map (Provider.steadyAnswer symbol point) ++ heard
      let outcome : Outcome Database (List Record) := ⟨result,
        ⟨some (t.withDays symbol point (done ++ fetched))⟩, (answers.map Heard.request).map .chart⟩
      exchange.overSpanAt pace ⟨some stored⟩ today symbol span source = (outcome, later) ∧
      (∀ earlier, exchange.recorded.overSpanAt pace ⟨some stored⟩ today symbol span (source, earlier) =
        (outcome, later, earlier ++ answers)) ∧
      ((fetched = rest ∧ heard = [] ∧
          result = .ok (stored.wholeDays symbol (queriedDays today span) ++
            rest.map fun day => (point day).filedByDay symbol)) ∨
        ∃ failing late others e dropped, rest = fetched ++ failing :: (late ++ others) ∧ result = .error e ∧
          late.length < pace.width ∧ heard = ⟨.wholeDay symbol .oneMonth failing, .error e⟩ :: dropped ∧
          dropped.map Heard.request = late.map (.wholeDay symbol .oneMonth) ∧ ∃ before after,
            exchange.provider.chart (.wholeDay symbol .oneMonth failing) before = (.error e, after)) := by
  intro stored
  have missing := attempted.missing_eq
  obtain ⟨plain, filled, several, steady, cached, split⟩ := attempted
  have refilled : stored.Filled := filled.withDays done
  obtain ⟨heard, result, between, late, dropped, serves, front, few, fine, besides, ran, noted⟩ :=
    overSpanAt_serves plain refilled pace today symbol several source
  have whole : exchange.storedWhole? ⟨some stored⟩ symbol =
      fun day => stored.held (.of symbol day .wholeDay) :=
    funext (storedWhole?_filled plain refilled symbol)
  -- The day that was stored all along keeps the span from being fetched as one.
  have served : (queriedDays today span).filterMap (exchange.storedWhole? ⟨some stored⟩ symbol) ≠ [] := by
    obtain ⟨day, inside, before⟩ := cached
    have still : (stored.held (.of symbol day .wholeDay)).isSome := by
      rw [filled.held_withDays steady.dated]
      split
      · rfl
      · exact before
    obtain ⟨record, found⟩ := Option.isSome_iff_exists.mp still
    rw [whole]
    exact List.ne_nil_of_mem (List.mem_filterMap.mpr ⟨day, inside, found⟩)
  change exchange.provider.Serves (if List.filterMap _ (queriedDays today span) = [] then _ else
    ((queriedDays today span).filter _).map _) _ _ _ _ at serves
  change late <+: ((queriedDays today span).filter _).drop _ at front
  rw [if_neg served, missing] at serves
  rw [missing] at front
  have table (fetched : List Date) :
      stored.putEach (((fetched.map (Provider.steadyAnswer symbol point)).flatMap Heard.points).map
        (·.filedByDay symbol)) = t.withDays symbol point (done ++ fetched) := by
    rw [Provider.points_steadyAnswer, Table.withDays_append]
    rfl
  rcases serves.of_steady steady with
    ⟨rfl, rfl⟩ | ⟨fetched, failing, behind, e, before, split, left, rfl, rfl, failed⟩
  · obtain rfl : late = [] := fine (.inr ⟨_, rfl⟩)
    obtain rfl : dropped = [] := List.map_eq_nil_iff.mp besides
    simp only [whole, table, List.append_nil] at ran noted
    refine ⟨rest, [], _, between, ?_, fun earlier => ?_, .inl ⟨rfl, rfl, rfl⟩⟩
    · rw [ran, List.append_nil]
      rfl
    · rw [noted, List.append_nil]
      rfl
  · -- The answer that fails has no points.
    have none : List.flatMap Heard.points [⟨.wholeDay symbol .oneMonth failing, .error e⟩] = [] := rfl
    obtain ⟨others, rfl⟩ : late <+: behind := left ▸ front
    simp only [List.flatMap_append, none, List.append_nil, table, List.append_assoc] at ran noted
    exact ⟨fetched, _, .error e, _, ran, noted,
      .inr ⟨failing, late, others, e, dropped, split, rfl, few, rfl, besides, before, between, failed⟩⟩

/-- An attempt that succeeds has fetched all days that were left. -/
theorem of_ok (attempted : Attempted exchange t today symbol span point done rest) {pace : Pace} {source : τ}
    {records : List Record} :
    let stored := t.withDays symbol point done
    let call := exchange.overSpanAt pace ⟨some stored⟩ today symbol span source
    call.1.result = .ok records →
    records = stored.wholeDays symbol (queriedDays today span) ++
        rest.map (fun day => (point day).filedByDay symbol) ∧
      call.1.store = ⟨some (t.withDays symbol point (done ++ rest))⟩ := by
  intro stored call success
  obtain ⟨fetched, heard, result, later, ran, _, ended⟩ := attempted.overSpanAt_cases pace source
  simp only [call, stored, ran] at success ⊢
  rcases ended with ⟨rfl, _, all⟩ | ⟨_, _, _, _, _, _, failed, _⟩
  · exact ⟨Except.ok.inj (success.symm.trans all), rfl⟩
  · cases success.symm.trans failed

theorem of_error (attempted : Attempted exchange t today symbol span point done rest) {pace : Pace}
    {source : τ} {e : Failure} :
    (exchange.overSpanAt pace ⟨some (t.withDays symbol point done)⟩ today symbol span source).1.result =
      .error e →
    ∃ day before after,
      exchange.provider.chart (.wholeDay symbol .oneMonth day) before = (.error e, after) := by
  intro failed
  obtain ⟨fetched, heard, result, later, ran, _, ended⟩ := attempted.overSpanAt_cases pace source
  simp only [ran] at failed
  rcases ended with ⟨_, _, all⟩ | ⟨failing, _, _, _, _, _, cause, _, _, _, before, after, answered⟩
  · cases failed.symm.trans all
  · cases failed.symm.trans cause
    exact ⟨failing, before, after, answered⟩

/-- An attempt begins with the first of the days that are left. -/
theorem head_requests {first : Date} {others : List Date}
    (attempted : Attempted exchange t today symbol span point done (first :: others)) (pace : Pace)
    (source : τ) :
    (exchange.overSpanAt pace ⟨some (t.withDays symbol point done)⟩ today symbol span
      source).1.requests.head? = some (.chart (.wholeDay symbol .oneMonth first)) := by
  obtain ⟨fetched, heard, result, later, ran, _, ended⟩ := attempted.overSpanAt_cases pace source
  rw [ran]
  rcases ended with ⟨rfl, _, _⟩ | ⟨failing, late, behind, _, _, split, _, _, rfl, _⟩
  · rfl
  · cases fetched <;> cases split <;> rfl

/-- What an attempt fetches, what it asks for besides, and where the next one starts. -/
theorem attempt (attempted : Attempted exchange t today symbol span point done rest) (pace next : Pace)
    (source : τ) :
    let asked (day : Date) := ChartRequest.wholeDay symbol .oneMonth day
    let call := exchange.overSpanAt pace ⟨some (t.withDays symbol point done)⟩ today symbol span source
    ∃ fetched heard others, rest = fetched ++ others ∧
      call.1.store = ⟨some (t.withDays symbol point (done ++ fetched))⟩ ∧
      exchange.recorded.overSpanAt pace ⟨some (t.withDays symbol point done)⟩ today symbol span (source, []) =
        (call.1, call.2, fetched.map (Provider.steadyAnswer symbol point) ++ heard) ∧
      (∃ days, days <+: rest ∧ call.1.requests = days.map fun day => .chart (asked day)) ∧
      (∀ records, call.1.result = .ok records → others = [] ∧ heard = []) ∧
      ∀ e, call.1.result = .error e → ∃ failing late behind dropped, others = failing :: (late ++ behind) ∧
        late.length < pace.width ∧ heard = ⟨asked failing, .error e⟩ :: dropped ∧
        dropped.map Heard.request = late.map asked ∧
        (exchange.overSpanAt next call.1.store today symbol span call.2).1.requests.head? =
          some (.chart (asked failing)) := by
  intro asked call
  obtain ⟨fetched, heard, result, later, ran, noted, ended⟩ := attempted.overSpanAt_cases pace source
  simp only [call, ran]
  rcases ended with ⟨rfl, rfl, rfl⟩ | ⟨failing, late, behind, e, dropped, rfl, rfl, few, rfl, besides, _⟩
  · refine ⟨fetched, [], [], (List.append_nil _).symm, rfl, noted [], ⟨fetched, List.prefix_rfl, ?_⟩,
      fun _ _ => ⟨rfl, rfl⟩, fun _ failed => (nomatch failed)⟩
    rw [List.append_nil, Provider.requests_steadyAnswer, List.map_map]
    rfl
  · refine ⟨fetched, _, failing :: (late ++ behind), rfl, rfl, noted [], ⟨fetched ++ failing :: late, ?_, ?_⟩,
      fun _ fine => (nomatch fine), ?_⟩
    · exact ⟨behind, by rw [List.append_assoc, List.cons_append]⟩
    · rw [List.map_append, Provider.requests_steadyAnswer, List.map_cons, besides]
      simp only [asked, List.map_append, List.map_cons, List.map_map]
      rfl
    · intro cause same
      cases same
      exact ⟨failing, late, behind, dropped, rfl, few, rfl, besides,
        attempted.advance.head_requests next later⟩

end Attempted

/-- What attempts at a span leave of the store and of the provider, each made at a pace of its own. -/
def attempts (exchange : Exchange σ (StateM τ)) (paces : ℕ → Pace) (today : Date) (symbol : String)
    (span : Span) (now : σ × τ) : ℕ → σ × τ
  | 0 => now
  | n + 1 =>
    let before := attempts exchange paces today symbol span now n
    let call := exchange.overSpanAt (paces n) before.1 today symbol span before.2
    (call.1.store, call.2)

/-- Any number of attempts has filed the first of the days that were missing, and nothing else. -/
theorem Attempted.after (attempted : Attempted exchange t today symbol span point [] rest) (paces : ℕ → Pace)
    (source : τ) (n : ℕ) :
    ∃ done others later, rest = done ++ others ∧
      exchange.attempts paces today symbol span (⟨some t⟩, source) n =
        (⟨some (t.withDays symbol point done)⟩, later) := by
  induction n with
  | zero => exact ⟨[], rest, source, rfl, rfl⟩
  | succ n ih =>
    obtain ⟨done, others, before, rfl, left⟩ := ih
    have advanced : Attempted exchange t today symbol span point done others := attempted.advance
    obtain ⟨fetched, _, behind, rfl, stored, _⟩ := advanced.attempt (paces n) (paces n) before
    refine ⟨done ++ fetched, behind, (exchange.overSpanAt (paces n) ⟨some (t.withDays symbol point done)⟩ today
      symbol span before).2, (List.append_assoc _ _ _).symm, ?_⟩
    rw [attempts, left]
    exact congrArg (·, _) stored

end Exchange

end PriceHistory
