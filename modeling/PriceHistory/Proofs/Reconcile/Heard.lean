import PriceHistory.Proofs.Reconcile.Filled

/-!
What the provider is asked for and what it answers, written down beside a run. This changes nothing
else. Over a database, the points of the answers in their order are all that requests have written.
-/
namespace PriceHistory

open PriceHistory.Calendar PriceHistory.Database

variable {σ τ : Type}

/-- A request for a chart with the answer that it got. -/
structure Heard where
  request : ChartRequest
  answer : Except Failure (List Record)

/-- The points of an answer, in the form in which they are filed. -/
def Heard.filed : Heard → List Record
  | ⟨request, .ok points⟩ => points.map request.form
  | ⟨_, .error _⟩ => []

namespace Provider

/-- The provider that also writes down each request for a chart with its answer. -/
def recorded (provider : Provider (StateM τ)) : Provider (StateM (τ × List Heard)) where
  chart request := fun (t, heard) =>
    let (answer, t) := provider.chart request t
    (answer, t, heard ++ [⟨request, answer⟩])
  listings := fun (t, heard) =>
    let (answer, t) := provider.listings t
    (answer, t, heard)
  lastTrades symbols := fun (t, heard) =>
    let (answer, t) := provider.lastTrades symbols t
    (answer, t, heard)

/-- How a provider serves requests made one after another: each is answered with points, up to the
first that fails. The result joins the points as they are filed. -/
inductive Serves (provider : Provider (StateM τ)) :
    List ChartRequest → τ → List Heard → Except Failure (List Record) → τ → Prop where
  | done (t : τ) : Serves provider [] t [] (.ok []) t
  | failed {request : ChartRequest} {t later : τ} {e : Failure}
      (answered : provider.chart request t = (.error e, later)) (rest : List ChartRequest) :
      Serves provider (request :: rest) t [⟨request, .error e⟩] (.error e) later
  | answered {request : ChartRequest} {t after later : τ} {points : List Record}
      {rest : List ChartRequest} {heard : List Heard} {result : Except Failure (List Record)}
      (answered : provider.chart request t = (.ok points, after))
      (others : Serves provider rest after heard result later) :
      Serves provider (request :: rest) t (⟨request, .ok points⟩ :: heard)
        (result.map (points.map request.form ++ ·)) later

namespace Serves

variable {provider : Provider (StateM τ)} {requests : List ChartRequest} {t later : τ}
  {heard : List Heard} {result : Except Failure (List Record)}

/-- What was answered was answered to one of the requests. -/
theorem chart_of_mem (serves : provider.Serves requests t heard result later) :
    ∀ h ∈ heard, h.request ∈ requests ∧
      ∃ before after, provider.chart h.request before = (h.answer, after) := by
  induction serves with
  | done => simp
  | @failed request before after e answered rest =>
    simp only [List.forall_mem_singleton]
    exact ⟨List.mem_cons_self, before, after, answered⟩
  | @answered request before between after points rest others result answered _ ih =>
    simp only [List.forall_mem_cons]
    refine ⟨⟨List.mem_cons_self, before, between, answered⟩, fun h member => ?_⟩
    exact ⟨List.mem_cons_of_mem _ (ih h member).1, (ih h member).2⟩

/-- Requests that succeed are all made and all answered, and give the points of the answers. -/
theorem of_ok {records : List Record} (serves : provider.Serves requests t heard (.ok records) later) :
    heard.map Heard.request = requests ∧ records = heard.flatMap Heard.filed ∧
      ∀ h ∈ heard, ∃ points, h.answer = .ok points := by
  generalize ended : Except.ok records = result at serves
  induction serves generalizing records with
  | done =>
    cases ended
    simp
  | failed => cases ended
  | @answered _ _ _ _ points _ _ result _ _ ih =>
    cases result with
    | error e => cases ended
    | ok others =>
      obtain ⟨made, rfl, fine⟩ := ih rfl
      cases ended
      refine ⟨congrArg _ made, rfl, ?_⟩
      simp only [List.forall_mem_cons]
      exact ⟨⟨points, rfl⟩, fine⟩

/-- Requests that fail are answered up to the one that fails, which is the last made. -/
theorem of_error {e : Failure} (serves : provider.Serves requests t heard (.error e) later) :
    ∃ earlier request rest, requests = earlier.map Heard.request ++ request :: rest ∧
      heard = earlier ++ [⟨request, .error e⟩] ∧ (∀ h ∈ earlier, ∃ points, h.answer = .ok points) ∧
      ∃ before, provider.chart request before = (.error e, later) := by
  generalize ended : Except.error e = result at serves
  induction serves with
  | done => cases ended
  | @failed request before _ _ answered rest =>
    cases ended
    exact ⟨[], request, rest, rfl, rfl, by simp, before, answered⟩
  | @answered request _ _ _ points _ _ result _ _ ih =>
    cases result with
    | ok others => cases ended
    | error cause =>
      cases ended
      obtain ⟨earlier, failing, rest, rfl, rfl, fine, last⟩ := ih rfl
      refine ⟨⟨request, .ok points⟩ :: earlier, failing, rest, rfl, rfl, ?_, last⟩
      simp only [List.forall_mem_cons]
      exact ⟨⟨points, rfl⟩, fine⟩

/-- The same, where there is one request for each member of a list. -/
theorem of_error_map {α : Type} {f : α → ChartRequest} {members : List α} {e : Failure}
    (serves : provider.Serves (members.map f) t heard (.error e) later) :
    ∃ done failing rest earlier, members = done ++ failing :: rest ∧ members.drop heard.length = rest ∧
      heard = earlier ++ [⟨f failing, .error e⟩] ∧ earlier.map Heard.request = done.map f ∧
      (∀ h ∈ earlier, ∃ points, h.answer = .ok points) ∧
      ∃ before, provider.chart (f failing) before = (.error e, later) := by
  obtain ⟨earlier, last, others, made, rfl, fine, failed⟩ := serves.of_error
  obtain ⟨done, left, rfl, asked, made⟩ := List.map_eq_append_iff.mp made
  obtain ⟨failing, rest, rfl, rfl, rfl⟩ := List.map_eq_cons_iff.mp made
  have long : earlier.length = done.length := by simpa using (congrArg List.length asked).symm
  refine ⟨done, failing, rest, earlier, rfl, ?_, rfl, asked.symm, fine, failed⟩
  rw [List.length_append, List.length_singleton, long, List.drop_length_add_append, List.drop_one, List.tail_cons]

theorem requests_singleton {request : ChartRequest}
    (serves : provider.Serves [request] t heard result later) : heard.map Heard.request = [request] := by
  cases serves with
  | failed => rfl
  | answered _ others =>
    cases others
    rfl

end Serves

end Provider

namespace Exchange

/-- The exchange whose provider writes down what it is asked for and answers. -/
def recorded (exchange : Exchange σ (StateM τ)) : Exchange σ (StateM (τ × List Heard)) :=
  ⟨exchange.store, exchange.provider.recorded⟩

theorem errand_recorded (exchange : Exchange σ (StateM τ)) (plan : Plan) (s : σ) (today : Date) :
    plan.errand exchange.recorded s today = plan.errand exchange s today :=
  Plan.errand_congr fun _ _ => ⟨rfl, rfl⟩

variable {exchange : Exchange Database (StateM τ)} {t : Table}

/-- How requests go over a database, with their answers written down and without. -/
theorem fetchEach_serves (plain : exchange.store = Database.store) (requests : List ChartRequest)
    (t : Table) (source : τ) :
    ∃ heard result later, exchange.provider.Serves requests source heard result later ∧
      let outcome : Outcome Database (List Record) :=
        ⟨result, ⟨some (t.putEach (heard.flatMap Heard.filed))⟩, heard.map (.chart ·.request)⟩
      exchange.fetchEach requests ⟨some t⟩ source = (outcome, later) ∧
      ∀ earlier, exchange.recorded.fetchEach requests ⟨some t⟩ (source, earlier) =
        (outcome, later, earlier ++ heard) := by
  induction requests generalizing t source with
  | nil =>
    refine ⟨[], .ok [], source, .done source, rfl, fun earlier => ?_⟩
    rw [List.append_nil]
    rfl
  | cons request rest ih =>
    cases answered : exchange.provider.chart request source with
    | mk answer after =>
      have noted (earlier : List Heard) : exchange.recorded.provider.chart request (source, earlier) =
          (answer, after, earlier ++ [⟨request, answer⟩]) := by
        simp only [recorded, Provider.recorded, answered]
      cases answer with
      | error e =>
        refine ⟨_, _, _, .failed answered rest, ?_, fun earlier => ?_⟩
        · rw [run_fetchEach_cons answered]
          rfl
        · rw [run_fetchEach_cons (noted earlier)]
          rfl
      | ok points =>
        -- The other requests are made over the table with these points in it.
        obtain ⟨heard, result, later, serves, ran, ranNoted⟩ :=
          ih (t.putEach (points.map request.form)) after
        refine ⟨_, _, _, .answered answered serves, ?_, fun earlier => ?_⟩
        · rw [run_fetchEach_cons answered, received_ok plain, Outcome.run_andThen_of_ok rfl, ran,
            List.flatMap_cons, Table.putEach_append]
          rfl
        · have plainNoted : exchange.recorded.store = Database.store := plain
          rw [run_fetchEach_cons (noted earlier), received_ok plainNoted,
            Outcome.run_andThen_of_ok rfl, ranNoted, List.flatMap_cons, Table.putEach_append,
            List.append_assoc]
          rfl

/-- What a plan comes to whose reads succeed. -/
theorem carryOut_serves (plain : exchange.store = Database.store) {plan : Plan} {today : Date}
    {served : List Record} {requests : List ChartRequest}
    (read : plan.errand exchange ⟨some t⟩ today = .ok (served, requests)) (source : τ) :
    ∃ heard result later, exchange.provider.Serves requests source heard result later ∧
      let outcome : Outcome Database (List Record) := ⟨result.map (served ++ ·),
        ⟨some (t.putEach (heard.flatMap Heard.filed))⟩, heard.map (.chart ·.request)⟩
      plan.carryOut exchange ⟨some t⟩ today source = (outcome, later) ∧
      ∀ earlier, plan.carryOut exchange.recorded ⟨some t⟩ today (source, earlier) =
        (outcome, later, earlier ++ heard) := by
  obtain ⟨heard, result, later, serves, ran, ranNoted⟩ := fetchEach_serves plain requests t source
  refine ⟨heard, result, later, serves, ?_, fun earlier => ?_⟩
  · rw [Plan.carryOut_of_ok read]
    exact run_map ran _
  · rw [Plan.carryOut_of_ok ((exchange.errand_recorded plan ⟨some t⟩ today).trans read)]
    exact run_map (ranNoted earlier) _

/-- A query over a database with a table writes the points of the answers that it gets, and each of
these is the provider's answer to a request that the reads of the query have left to make. -/
theorem store_of_recorded (plain : exchange.store = Database.store) (plan : Plan) (t : Table)
    (today : Date) (source : τ) :
    ∃ heard later, (∀ h ∈ heard, ∃ served requests,
        plan.errand exchange ⟨some t⟩ today = .ok (served, requests) ∧ h.request ∈ requests ∧
          ∃ before after, exchange.provider.chart h.request before = (h.answer, after)) ∧
      let left := plan.carryOut exchange ⟨some t⟩ today source
      (left.1.store, left.2) = (⟨some (t.putEach (heard.flatMap Heard.filed))⟩, later) ∧
      ∀ earlier, let noted := plan.carryOut exchange.recorded ⟨some t⟩ today (source, earlier)
        (noted.1.store, noted.2) =
          (⟨some (t.putEach (heard.flatMap Heard.filed))⟩, later, earlier ++ heard) := by
  cases read : plan.errand exchange ⟨some t⟩ today with
  | error e =>
    -- A query whose reads fail asks for nothing and writes nothing.
    have readNoted := (exchange.errand_recorded plan ⟨some t⟩ today).trans read
    refine ⟨[], source, by simp, ?_, fun earlier => ?_⟩
    · rw [Plan.carryOut_of_error read]
      rfl
    · rw [Plan.carryOut_of_error readNoted, List.append_nil]
      rfl
  | ok found =>
    obtain ⟨served, requests⟩ := found
    obtain ⟨heard, result, later, serves, ran, ranNoted⟩ := carryOut_serves plain read source
    refine ⟨heard, later, fun h member => ?_, by rw [ran], fun earlier => by rw [ranNoted]⟩
    exact ⟨served, requests, rfl, serves.chart_of_mem h member⟩

end Exchange

end PriceHistory
