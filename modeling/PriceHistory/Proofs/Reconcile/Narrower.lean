import PriceHistory.Proofs.Calendar.Order
import PriceHistory.Proofs.Reconcile.FilledDays
import PriceHistory.Proofs.Span

/-!
Queries for two spans over one table, with a provider that has its answer for each day. The days of the
narrower span are the last ones of the wider, each day is stored or fetched by itself whatever the span,
and so the narrower query gives and asks for a part of what the wider does.
-/
namespace PriceHistory

open PriceHistory.Calendar PriceHistory.Database

variable {τ : Type} {symbol : String} {points : Date → List Record}

/-- Is each request for a day as a whole answered by points of that day, the same each time? -/
structure Provider.Settled (provider : Provider (StateM τ)) (symbol : String)
    (points : Date → List Record) : Prop where
  dated : ∀ day, ∀ p ∈ points day, p.key.date = day
  answers : ∀ day before, (provider.chart (.wholeDay symbol .oneMonth day) before).1 = .ok (points day)

/-- Requests for days are all answered, and give the points of these days. -/
theorem Provider.Serves.of_settled {provider : Provider (StateM τ)}
    (settled : provider.Settled symbol points) {days : List Date} {start later : τ} {heard : List Heard}
    {result : Except Failure (List Record)}
    (serves : provider.Serves (days.map (.wholeDay symbol .oneMonth)) start heard result later) :
    result = .ok (days.flatMap fun day => (points day).map (·.filedByDay symbol)) ∧
      heard.map Heard.request = days.map (.wholeDay symbol .oneMonth) := by
  induction days generalizing start heard result with
  | nil =>
    cases serves
    exact ⟨rfl, rfl⟩
  | cons day days ih =>
    have fine := settled.answers day start
    cases serves with
    | failed answered =>
      rw [answered] at fine
      cases fine
    | answered answered others =>
      rw [answered] at fine
      cases fine
      obtain ⟨rfl, made⟩ := ih others
      exact ⟨rfl, congrArg _ made⟩

/-- Of records that come day by day, those of some days are the ones that come on these days. -/
theorem filter_flatMap_of_dated {ofDay : Date → List Record}
    (dated : ∀ day, ∀ r ∈ ofDay day, r.key.date = day) (chosen : Date → Bool) (days : List Date) :
    (days.flatMap ofDay).filter (fun r => chosen r.key.date) = (days.filter chosen).flatMap ofDay := by
  induction days with
  | nil => rfl
  | cons day days ih =>
    rw [List.flatMap_cons, List.filter_append, ih]
    -- All records of the first day are chosen with it, or none of them is.
    by_cases first : chosen day = true
    · have all : (ofDay day).filter (fun r => chosen r.key.date) = ofDay day := by
        rw [List.filter_eq_self]
        intro r member
        rw [dated day r member, first]
      rw [all, List.filter_cons_of_pos first, List.flatMap_cons]
    · have none : (ofDay day).filter (fun r => chosen r.key.date) = [] := by
        rw [List.filter_eq_nil_iff]
        intro r member
        rwa [dated day r member]
      rw [none, List.filter_cons_of_neg first, List.nil_append]

namespace Exchange

variable {exchange : Exchange Database (StateM τ)} {t : Table}

/-- A query for a span with a stored day in its window: the stored records come first, and then the points
of each day that misses one, in the order in which these are asked for. -/
theorem overSpan_settled (plain : exchange.store = Database.store) (filled : t.Filled) (today : Date)
    {span : Span} (several : span ≠ .oneDay) (settled : exchange.provider.Settled symbol points)
    (cached : ∃ day ∈ span.window (anchor today), t.has (.of symbol day .wholeDay) = true)
    (source : τ) :
    let stored (day : Date) := t.held (.of symbol day .wholeDay)
    let missing := (span.window (anchor today)).filter fun day => (stored day).isNone
    let call := exchange.overSpan ⟨some t⟩ today symbol span source
    call.1.result = .ok ((span.window (anchor today)).flatMap (fun day => (stored day).toList) ++
        missing.flatMap fun day => (points day).map (·.filedByDay symbol)) ∧
      call.1.requests = missing.map fun day => .chart (.wholeDay symbol .oneMonth day) := by
  intro stored missing call
  -- A span that needs a date has the window of a month.
  have window : (if span = .byDate then Span.oneMonth else span).window (anchor today) =
      span.window (anchor today) := by
    split
    next same => rw [same]; rfl
    next => rfl
  obtain ⟨heard, result, later, serves, ran, _⟩ :=
    overSpan_serves plain filled today symbol several source
  simp only [window, funext (storedWhole?_filled plain filled symbol)] at serves ran
  have served : (span.window (anchor today)).filterMap stored ≠ [] := by
    obtain ⟨day, inside, there⟩ := cached
    rw [filled.has_eq] at there
    obtain ⟨record, found⟩ := Option.isSome_iff_exists.mp there
    exact List.ne_nil_of_mem (List.mem_filterMap.mpr ⟨day, inside, found⟩)
  rw [if_neg served] at serves
  obtain ⟨rfl, made⟩ := serves.of_settled settled
  simp only [call, ran, made, List.map_map]
  refine ⟨?_, rfl⟩
  rw [← List.filterMap_eq_flatMap_toList]
  rfl

/-- Two queries for spans of more than one day, the one as wide as the other or wider, over a table that
nothing but writes has filled and that holds a day of the narrower window. Each day has its points, which
every request for it is answered with. The narrower query returns the records of the wider one that are
dated after its floor, in their order, and its requests are those of the wider one for days after it. -/
theorem overSpan_narrower (plain : exchange.store = Database.store) (filled : t.Filled) (today : Date)
    {wide narrow : Span} (wideSeveral : wide ≠ .oneDay) (narrowSeveral : narrow ≠ .oneDay)
    (order : narrow.width ≤ wide.width) (settled : exchange.provider.Settled symbol points)
    (cached : ∃ day ∈ narrow.window (anchor today), t.has (.of symbol day .wholeDay) = true)
    (source source' : τ) :
    let floor := narrow.floor (anchor today)
    let asked (day : Date) := Request.chart (.wholeDay symbol .oneMonth day)
    let whole := exchange.overSpan ⟨some t⟩ today symbol wide source
    let part := exchange.overSpan ⟨some t⟩ today symbol narrow source'
    ∃ (records : List Record) (days : List Date), whole.1.result = .ok records ∧ whole.1.requests = days.map asked ∧
      part.1.result = .ok (records.filter fun r => floor < r.key.date) ∧
      part.1.requests = (days.filter fun day => floor < day).map asked := by
  intro floor asked whole part
  have nested : narrow.window (anchor today) =
      (wide.window (anchor today)).filter fun day => floor < day :=
    Span.window_eq_filter order _
  have cachedWide : ∃ day ∈ wide.window (anchor today), t.has (.of symbol day .wholeDay) = true := by
    obtain ⟨day, inside, there⟩ := cached
    rw [nested] at inside
    exact ⟨day, List.mem_of_mem_filter inside, there⟩
  obtain ⟨given, askedAll⟩ := overSpan_settled plain filled today wideSeveral settled cachedWide source
  obtain ⟨givenPart, askedPart⟩ := overSpan_settled plain filled today narrowSeveral settled cached source'
  refine ⟨_, _, given, askedAll, givenPart.trans (congrArg _ ?_), askedPart.trans ?_⟩
  · -- Stored records and fetched points are dated as the days that they come on.
    have storedDated (day : Date) :
        ∀ r ∈ (t.held (.of symbol day .wholeDay)).toList, r.key.date = day := by
      intro r member
      rw [(filled.of_held_wholeDay (Option.mem_toList.mp member)).1]
      rfl
    have fetchedDated (day : Date) :
        ∀ r ∈ (points day).map (·.filedByDay symbol), r.key.date = day := by
      intro r member
      obtain ⟨p, inside, rfl⟩ := List.mem_map.mp member
      exact settled.dated day p inside
    rw [List.filter_append, filter_flatMap_of_dated storedDated fun day => floor < day,
      filter_flatMap_of_dated fetchedDated fun day => floor < day, nested, List.filter_filter,
      List.filter_filter]
    simp only [Bool.and_comm]
  · rw [nested, List.filter_filter, List.filter_filter]
    simp only [Bool.and_comm, asked]

/-- Two points of a day with an odd number, and none of the others. -/
private def oddPoints (day : Date) : List Record :=
  List.replicate (2 * (day.day % 2)) ⟨.of "msft" day (.minute Slot.markerTime), none, none, none, none, .zero⟩

/-- A provider that has these points. It counts requests. -/
private def oddly : Provider (StateM Nat) where
  chart
    | .wholeDay _ _ day => fun n => (.ok (oddPoints day), n + 1)
    | _ => fun n => (.ok [], n + 1)
  listings := pure (.ok [])
  lastTrades _ := pure (.ok [])

/-- Five days beside a token that is not known, with the second and the 23rd stored. -/
theorem overSpan_narrower_five_days :
    let exchange : Exchange Database (StateM Nat) := ⟨Database.store, oddly⟩
    let t := Table.empty.putEach (([23, 2].map Date.ofJune).map fun day =>
      ⟨.of "aapl" day .wholeDay, none, none, none, none, .zero⟩)
    let floor := Span.fiveDays.floor (anchor (.ofJune 26))
    let whole := exchange.overSpan ⟨some t⟩ (.ofJune 26) "aapl" (.other "ytd") 0
    let part := exchange.overSpan ⟨some t⟩ (.ofJune 26) "aapl" .fiveDays 0
    whole.1.requests.length = 29 ∧
      part.1.requests = [25, 24, 22, 21].map (fun day => .chart (.wholeDay "aapl" .oneMonth (.ofJune day))) ∧
      ∃ records, whole.1.result = .ok records ∧ records.length = 32 ∧
        part.1.result = .ok (records.filter fun r => floor < r.key.date) ∧
        (records.filter fun r => floor < r.key.date).length = 5 := by
  intro exchange t floor whole part
  have settled : exchange.provider.Settled "aapl" oddPoints := by
    refine ⟨fun day p member => ?_, fun day before => rfl⟩
    rw [List.eq_of_mem_replicate member]
    rfl
  have filled : t.Filled := Table.Filled.putEach .empty _
  obtain ⟨records, _, given, _, givenPart, _⟩ := overSpan_narrower rfl filled (.ofJune 26)
    (show Span.other "ytd" ≠ .oneDay by decide) (show Span.fiveDays ≠ .oneDay by decide) (by decide)
    settled ⟨Date.ofJune 23, by decide +kernel, by decide +kernel⟩ 0 0
  have count : whole.1.result.map List.length = .ok 32 := by decide +kernel
  have countPart : part.1.result.map List.length = .ok 5 := by decide +kernel
  rw [given] at count
  rw [givenPart] at countPart
  refine ⟨?_, ?_, records, given, Except.ok.inj count, givenPart, Except.ok.inj countPart⟩
  · decide +kernel
  · decide +kernel

end Exchange

end PriceHistory
