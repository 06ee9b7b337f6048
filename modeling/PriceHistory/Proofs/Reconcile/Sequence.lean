import PriceHistory.Proofs.Reconcile.Heard

/-!
Queries put one after another, and what each may write into a table: points that the provider answers
to a request of the query, in the form of that request.
-/
namespace PriceHistory

open PriceHistory.Calendar PriceHistory.Database

namespace PriceQuery

variable {σ τ : Type} (exchange : Exchange σ (StateM τ))

/-- What a query leaves of the store and of the provider when it is put on a day. -/
def leave (now : σ × τ) (query : Date × PriceQuery) : σ × τ :=
  let call := query.2.ask exchange now.1 query.1 now.2
  (call.1.store, call.2)

/-- What queries leave that are put one after another, each on its day. -/
def after (now : σ × τ) (queries : List (Date × PriceQuery)) : σ × τ :=
  queries.foldl (leave exchange) now

theorem leave_eq_carryOut (s : σ) (t : τ) (query : Date × PriceQuery) :
    leave exchange (s, t) query =
      (((query.2.plan query.1).carryOut exchange s query.1 t).1.store,
        ((query.2.plan query.1).carryOut exchange s query.1 t).2) := by
  rw [leave, ask_eq_carryOut]

/-- A query for a date of a year from 0 to 9999, written in the compact form, is one for its minutes. -/
theorem plan_onDate_compact {day : Date} (written : 0 ≤ day.year ∧ day.year ≤ 9999) (symbol : String)
    (span : Span) (today : Date) :
    (onDate symbol span day.compact).plan today = .minutes symbol span day := by
  rw [plan, Plan.ofDate, Date.ofCompact?_compact written]

end PriceQuery

namespace Exchange

variable {τ : Type} {exchange : Exchange Database (StateM τ)}

/-- May a request bring a record, in the form in which its points are filed? -/
def Brings (exchange : Exchange Database (StateM τ)) (request : ChartRequest) (r : Record) : Prop :=
  ∃ before points later, exchange.provider.chart request before = (.ok points, later) ∧
    ∃ p ∈ points, r = request.form p

theorem store_of_carryOut (plain : exchange.store = Database.store) (plan : Plan) (t : Table)
    (today : Date) (source : τ) :
    ∃ kept, (plan.carryOut exchange ⟨some t⟩ today source).1.store = ⟨some (t.putEach kept)⟩ ∧
      ∀ r ∈ kept, ∃ served requests, plan.errand exchange ⟨some t⟩ today = .ok (served, requests) ∧
        ∃ request ∈ requests, exchange.Brings request r := by
  obtain ⟨heard, later, asked, left, _⟩ := store_of_recorded plain plan t today source
  refine ⟨heard.flatMap Heard.filed, congrArg Prod.fst left, fun r member => ?_⟩
  obtain ⟨⟨request, answer⟩, inside, own⟩ := List.mem_flatMap.mp member
  obtain ⟨served, requests, read, among, before, after, answered⟩ := asked _ inside
  refine ⟨served, requests, read, request, among, ?_⟩
  cases answer with
  | error e => cases own
  | ok points =>
    obtain ⟨p, inside, rfl⟩ := List.mem_map.mp own
    exact ⟨before, points, after, answered, p, inside, rfl⟩

end Exchange

end PriceHistory
