import PriceHistory.Proofs.Database.Store
import PriceHistory.Proofs.Reconcile.Errand

/-!
Queries over a database whose table nothing but writes has filled. Scans give what the table holds, and
a request that succeeds leaves the table with its points written into it.
-/
namespace PriceHistory.Exchange

open PriceHistory.Calendar PriceHistory.Database

variable {m : Type → Type} {exchange : Exchange Database m} {t : Table}

/-! ### Scans -/

/-- A scan of minutes gives those that the table holds. -/
theorem scanMinutes_filled (plain : exchange.store = Database.store) (filled : t.Filled)
    (symbol : String) (day : Date) (times : List TimeOfDay) :
    exchange.scanMinutes ⟨some t⟩ symbol day times =
      .ok (some (times.filterMap fun time => t.held (.of symbol day (.minute time)))) := by
  induction times with
  | nil => rfl
  | cons time rest ih =>
    rw [scanMinutes, plain, store_lookup filled, ih]
    cases found : t.held (.of symbol day (.minute time)) <;> simp [found] <;> rfl

/-- A day is stored exactly if it is marked. -/
theorem storedDay?_filled (plain : exchange.store = Database.store) (filled : t.Filled)
    (symbol : String) (day : Date) :
    exchange.storedDay? ⟨some t⟩ symbol day = .ok (if t.has (.of symbol day .marker) then
      some (TimeOfDay.sessionMinutes.filterMap fun time => t.held (.of symbol day (.minute time)))
      else none) := by
  rw [storedDay?, plain, store_has, scanMinutes_filled plain filled]
  cases t.has (.of symbol day .marker) <;> rfl

/-- A marked day is served from the table. -/
theorem onDay_marked [Monad m] (plain : exchange.store = Database.store) (filled : t.Filled)
    {symbol : String} {day : Date} (marked : t.has (.of symbol day .marker) = true) (span : Span) :
    exchange.onDay ⟨some t⟩ symbol span day = pure (.quiet (.ok (TimeOfDay.sessionMinutes.filterMap
      fun time => t.held (.of symbol day (.minute time)))) ⟨some t⟩) := by
  have probe := storedDay?_filled plain filled symbol day
  rw [if_pos marked] at probe
  exact onDay_of_stored probe

/-- A scan of days gives the records that the table holds for them as a whole, and the days without
one. -/
theorem scanDays_filled (plain : exchange.store = Database.store) (filled : t.Filled)
    (symbol : String) (days : List Date) :
    exchange.scanDays ⟨some t⟩ symbol days =
      .ok (days.filterMap fun day => t.held (.of symbol day .wholeDay),
        days.filter fun day => (t.held (.of symbol day .wholeDay)).isNone) := by
  have whole : exchange.storedWhole? ⟨some t⟩ symbol = fun day => t.held (.of symbol day .wholeDay) := by
    funext day
    rw [storedWhole?, plain, store_hit? filled]
  have answered (day : Date) : ∃ answer,
      exchange.store.lookup ⟨some t⟩ (.of symbol day .wholeDay) = .ok answer := by
    rw [plain]
    exact ⟨_, store_lookup filled _⟩
  rw [scanDays_eq fun day _ => answered day, whole]

/-! ### What is served and what is written -/

theorem received_ok (plain : exchange.store = Database.store) (request : ChartRequest)
    (form : Record → Record) (points : List Record) :
    exchange.received request form ⟨some t⟩ (.ok points) =
      ⟨.ok (points.map form), ⟨some (t.putEach (points.map form))⟩, [.chart request]⟩ := by
  rw [received, file, plain, store_putAll]
  rfl

variable {τ : Type} {exchange : Exchange Database (StateM τ)}

/-- An unmarked day comes to what the provider answers. -/
theorem run_onDay_unmarked (plain : exchange.store = Database.store) (filled : t.Filled)
    {symbol : String} {day : Date} (unmarked : ¬t.has (.of symbol day .marker) = true) (span : Span)
    {source later : τ} {answer : Except Failure (List Record)}
    (answered : exchange.provider.chart (.onDay symbol span day) source = (answer, later)) :
    exchange.onDay ⟨some t⟩ symbol span day source =
      (exchange.received (.onDay symbol span day) (·.filedUnder symbol) ⟨some t⟩ answer, later) := by
  have probe := storedDay?_filled plain filled symbol day
  rw [if_neg unmarked] at probe
  exact run_onDay_of_missing probe answered

/-- What a plan serves is held by the table. -/
theorem held_of_errand (plain : exchange.store = Database.store) (filled : t.Filled) {plan : Plan}
    {today : Date} {served : List Record} {requests : List ChartRequest}
    (read : plan.errand exchange ⟨some t⟩ today = .ok (served, requests)) :
    ∀ r ∈ served, ∃ key, t.held key = some r := by
  cases plan with
  | nothing =>
    cases read
    simp
  | minutes symbol span day =>
    rw [Plan.errand, storedDay?_filled plain filled] at read
    by_cases marked : t.has (.of symbol day .marker) = true
    · rw [if_pos marked] at read
      cases read
      intro r member
      obtain ⟨time, _, found⟩ := List.mem_filterMap.mp member
      exact ⟨_, found⟩
    · rw [if_neg marked] at read
      cases read
      simp
  | days symbol span =>
    rw [Plan.errand, scanDays_filled plain filled] at read
    intro r member
    have among : r ∈ (span.window (anchor today)).filterMap fun day =>
        t.held (.of symbol day .wholeDay) := by
      -- Without a stored day nothing is served, and else all stored days are.
      generalize ((span.window (anchor today)).filterMap fun day =>
        t.held (.of symbol day .wholeDay)) = stored at read ⊢
      cases stored <;> cases read
      · cases member
      · exact member
    obtain ⟨day, _, found⟩ := List.mem_filterMap.mp among
    exact ⟨_, found⟩

end PriceHistory.Exchange
