import PriceHistory.Proofs.Reconcile.Errand

/-!
What a query does after its reads, as a list of acts: each request, and behind it the writes of its
points. The query performs them one after another up to the first that fails.
-/
namespace PriceHistory

open PriceHistory.Calendar

/-- What a query does once it has read the store. -/
inductive Act where
  | asking (request : ChartRequest)
  | writing (record : Record)
  deriving DecidableEq

namespace Act

/-- The requests among some acts. -/
def asked (acts : List Act) : List Request :=
  acts.filterMap fun
    | asking request => some (.chart request)
    | writing _ => none

/-- The records written by some acts. -/
def written (acts : List Act) : List Record :=
  acts.filterMap fun
    | asking _ => none
    | writing record => some record

@[simp] theorem asked_append (first second : List Act) :
    asked (first ++ second) = asked first ++ asked second :=
  List.filterMap_append

@[simp] theorem written_append (first second : List Act) :
    written (first ++ second) = written first ++ written second :=
  List.filterMap_append

@[simp] theorem asked_writings (records : List Record) : asked (records.map writing) = [] := by
  induction records with
  | nil => rfl
  | cons record rest ih => exact ih

@[simp] theorem written_writings (records : List Record) : written (records.map writing) = records := by
  induction records with
  | nil => rfl
  | cons record rest ih => exact congrArg _ ih

variable {σ τ : Type}

/-- The acts of some requests to a source that fails none of them: each request, and behind it the
writes of its points. -/
def ofRequests (source : ChartRequest → StateM τ (List Record)) : List ChartRequest → τ → List Act
  | [], _ => []
  | request :: rest, t =>
    asking request :: ((source request t).1.map request.form).map writing ++
      ofRequests source rest (source request t).2

theorem asked_ofRequests (source : ChartRequest → StateM τ (List Record))
    (requests : List ChartRequest) (t : τ) :
    asked (ofRequests source requests t) = requests.map .chart := by
  induction requests generalizing t with
  | nil => rfl
  | cons request rest ih =>
    rw [ofRequests, asked_append, ih]
    exact congrArg (· ++ _) (congrArg (Request.chart request :: ·) (asked_writings _))

/-! ### Performing acts -/

/-- Performs an act: how it ends, and what it leaves of the store and of the provider. -/
def perform (exchange : Exchange σ (StateM τ)) (now : σ × τ) : Act → Except Failure Unit × σ × τ
  | asking request =>
    let (answer, t) := exchange.provider.chart request now.2
    (answer.map fun _ => (), now.1, t)
  | writing record =>
    let (done, s) := exchange.store.put now.1 record
    (done, s, now.2)

/-- What acts leave that are performed one after another. -/
def after (exchange : Exchange σ (StateM τ)) (now : σ × τ) (acts : List Act) : σ × τ :=
  acts.foldl (fun now act => (act.perform exchange now).2) now

/-- Does each of some acts go well when they are performed one after another? -/
def Pass (exchange : Exchange σ (StateM τ)) : σ × τ → List Act → Prop
  | _, [] => True
  | now, act :: rest => (act.perform exchange now).1 = .ok () ∧
    Pass exchange (act.perform exchange now).2 rest

/-- Performs acts one after another, up to the first that fails. -/
def performAll (exchange : Exchange σ (StateM τ)) : List Act → σ × τ → Outcome (σ × τ) Unit
  | [], now => .quiet (.ok ()) now
  | act :: rest, now =>
    match act.perform exchange now with
    | (.error e, now) => ⟨.error e, now, asked [act]⟩
    | (.ok (), now) =>
      let later := performAll exchange rest now
      ⟨later.result, later.store, asked [act] ++ later.requests⟩

variable {exchange : Exchange σ (StateM τ)} {now : σ × τ} {act : Act} {rest : List Act}

theorem performAll_cons_of_ok (fine : (act.perform exchange now).1 = .ok ()) :
    performAll exchange (act :: rest) now =
      let later := performAll exchange rest (act.perform exchange now).2
      ⟨later.result, later.store, asked [act] ++ later.requests⟩ := by
  rw [performAll]
  split
  next failed =>
    rw [failed] at fine
    cases fine
  next done => rw [done]

theorem performAll_cons_of_failed {e : Failure} (failed : (act.perform exchange now).1 = .error e) :
    performAll exchange (act :: rest) now =
      ⟨.error e, (act.perform exchange now).2, asked [act]⟩ := by
  rw [performAll]
  split
  next outcome =>
    rw [outcome] at failed
    cases failed
    rw [outcome]
  next done =>
    rw [done] at failed
    cases failed

theorem performAll_append_of_pass {done : List Act} (pass : Pass exchange now done) :
    performAll exchange (done ++ rest) now =
      let later := performAll exchange rest (after exchange now done)
      ⟨later.result, later.store, asked done ++ later.requests⟩ := by
  -- What one act leaves is where the others start, so the induction is over every start.
  induction done generalizing now with
  | nil => rfl
  | cons first done ih =>
    rw [List.cons_append, performAll_cons_of_ok pass.1, ih pass.2]
    dsimp only
    rw [← List.append_assoc, ← asked_append]
    rfl

theorem performAll_of_pass {acts : List Act} (pass : Pass exchange now acts) :
    performAll exchange acts now = ⟨.ok (), after exchange now acts, asked acts⟩ := by
  have whole : performAll exchange (acts ++ []) now = _ := performAll_append_of_pass pass
  rw [List.append_nil] at whole
  rw [whole]
  simp [performAll, Outcome.quiet]

theorem performAll_of_failed {done : List Act} {e : Failure} (pass : Pass exchange now done)
    (failed : (act.perform exchange (after exchange now done)).1 = .error e) :
    performAll exchange (done ++ act :: rest) now =
      ⟨.error e, after exchange now (done ++ [act]), asked (done ++ [act])⟩ := by
  -- The act that fails still leaves what it leaves: a write that fails may count as tried.
  rw [performAll_append_of_pass pass, performAll_cons_of_failed failed, asked_append, after, after,
    List.foldl_append]
  rfl

/-- Either all of some acts go well, or there is a first that fails. -/
theorem pass_or_failed (exchange : Exchange σ (StateM τ)) (now : σ × τ) (acts : List Act) :
    Pass exchange now acts ∨ ∃ done act rest e, acts = done ++ act :: rest ∧
      Pass exchange now done ∧ (act.perform exchange (after exchange now done)).1 = .error e := by
  induction acts generalizing now with
  | nil => exact .inl trivial
  | cons act rest ih =>
    cases ended : (act.perform exchange now).1 with
    | error e => exact .inr ⟨[], act, rest, e, rfl, trivial, ended⟩
    | ok _ =>
      -- The first act goes well, so it comes before whatever fails among the others.
      rcases ih (act.perform exchange now).2 with pass | ⟨done, other, later, e, rfl, pass, failed⟩
      · exact .inl ⟨ended, pass⟩
      · exact .inr ⟨act :: done, other, later, e, rfl, ⟨ended, pass⟩, failed⟩

theorem performAll_writings_append (records : List Record) (rest : List Act) (s : σ) (t : τ) :
    performAll exchange (records.map writing ++ rest) (s, t) =
      match exchange.store.putAll records s with
      | (.ok (), s) => performAll exchange rest (s, t)
      | (.error e, s) => ⟨.error e, (s, t), []⟩ := by
  induction records generalizing s with
  | nil => rfl
  | cons record records ih =>
    rw [List.map_cons, List.cons_append]
    cases done : (exchange.store.put s record).1 with
    | error e =>
      have failed : ((writing record).perform exchange (s, t)).1 = .error e := done
      rw [performAll_cons_of_failed failed, Store.putAll_cons_of_failed done,
        ← Prod.eta (exchange.store.put s record), done]
      rfl
    | ok _ =>
      have fine : ((writing record).perform exchange (s, t)).1 = .ok () := done
      rw [performAll_cons_of_ok fine, Store.putAll_cons_of_taken done]
      exact ih (exchange.store.put s record).2

end Act

/-! ### Requests as acts -/

namespace Exchange

variable {σ τ : Type} {exchange : Exchange σ (StateM τ)}
  {source : ChartRequest → StateM τ (List Record)}

/-- Does each chart request either fail or get the answer of a source? -/
def Falters (exchange : Exchange σ (StateM τ)) (source : ChartRequest → StateM τ (List Record)) :
    Prop :=
  ∀ request t points later,
    exchange.provider.chart request t = (.ok points, later) → source request t = (points, later)

theorem Answered.falters (answered : exchange.Answered source) : exchange.Falters source := by
  intro request t points later outcome
  rw [answered] at outcome
  obtain ⟨answer, rfl⟩ := Prod.mk.inj outcome
  cases answer
  rfl

/-- Every exchange falters so from the source that answers nothing where its provider fails. -/
theorem exists_falters (exchange : Exchange σ (StateM τ)) : ∃ source, exchange.Falters source := by
  refine ⟨fun request t => match exchange.provider.chart request t with
    | (.ok points, later) => (points, later)
    | (.error _, later) => ([], later), ?_⟩
  intro request t points later answered
  simp only [answered]

/-- Making requests is performing their acts, up to the first that fails. -/
theorem fetchEach_eq_performAll (falters : exchange.Falters source) (requests : List ChartRequest)
    (s : σ) (t : τ) :
    exchange.fetchEach requests s t =
      let acts := Act.ofRequests source requests t
      let ran := Act.performAll exchange acts (s, t)
      (⟨ran.result.map fun _ => Act.written acts, ran.store.1, ran.requests⟩, ran.store.2) := by
  induction requests generalizing s t with
  | nil => rfl
  | cons request rest ih =>
    rw [Act.ofRequests]
    cases answered : exchange.provider.chart request t with
    | mk answer later =>
      rw [run_fetchEach_cons answered]
      cases answer with
      -- The request itself fails, and nothing is done behind it.
      | error e =>
        have failed : ((Act.asking request).perform exchange (s, t)).1 = .error e := by
          simp [Act.perform, answered, Except.map]
        dsimp only
        rw [List.cons_append, Act.performAll_cons_of_failed failed]
        simp [Act.perform, answered, received, Outcome.andThen, Act.asked, Except.map]
        rfl
      | ok points =>
        have fine : ((Act.asking request).perform exchange (s, t)).1 = .ok () := by
          simp [Act.perform, answered, Except.map]
        have left : ((Act.asking request).perform exchange (s, t)).2 = (s, later) := by
          simp [Act.perform, answered]
        rw [falters request t points later answered, List.cons_append]
        dsimp only
        rw [Act.performAll_cons_of_ok fine, left, Act.performAll_writings_append, received, file]
        dsimp only
        generalize exchange.store.putAll (points.map request.form) s = filed
        obtain ⟨done, contents⟩ := filed
        cases done with
        | error e => rfl
        | ok _ =>
          -- The records of the first request come before those of the others.
          have joined : Act.written (Act.asking request :: ((points.map request.form).map .writing ++
              Act.ofRequests source rest later)) =
              points.map request.form ++ Act.written (Act.ofRequests source rest later) := by
            change Act.written (_ ++ _) = _
            rw [Act.written_append, Act.written_writings]
          rw [joined, Outcome.run_andThen_of_ok (show _ = Except.ok (points.map request.form) from rfl)]
          dsimp only
          rw [ih contents later]
          dsimp only
          generalize Act.performAll exchange (Act.ofRequests source rest later) (contents, later) = ran
          cases ran.result <;> rfl

/-- A query whose reads do not fail returns what they give together with what its acts write. -/
theorem run_carryOut (falters : exchange.Falters source) {plan : Plan} {s : σ} {today : Date}
    {served : List Record} {requests : List ChartRequest}
    (read : plan.errand exchange s today = .ok (served, requests)) (t : τ) :
    plan.carryOut exchange s today t =
      let acts := Act.ofRequests source requests t
      let ran := Act.performAll exchange acts (s, t)
      (⟨ran.result.map fun _ => served ++ Act.written acts, ran.store.1, ran.requests⟩,
        ran.store.2) := by
  rw [Plan.carryOut_of_ok read]
  change (Outcome.map (served ++ ·) (exchange.fetchEach requests s t).1,
    (exchange.fetchEach requests s t).2) = _
  rw [fetchEach_eq_performAll falters]
  dsimp only [Outcome.map]
  -- Both sides put what is served before the records, if there are any.
  generalize Act.performAll exchange (Act.ofRequests source requests t) (s, t) = ran
  cases ran.result <;> rfl

/-! ### Where nothing fails after the reads -/

/-- The exchange that reads as before, where no write fails and each is only noted, and where every
request gets the answer of a source. -/
def calm (exchange : Exchange σ (StateM τ)) (source : ChartRequest → StateM τ (List Record)) (s : σ) :
    Exchange (List Record) (StateM τ) where
  store := exchange.store.noting s
  provider := { exchange.provider with chart := fun request => Except.ok <$> source request }

theorem falters_calm (exchange : Exchange σ (StateM τ))
    (source : ChartRequest → StateM τ (List Record)) (s : σ) :
    (exchange.calm source s).Falters source :=
  Answered.falters fun _ => rfl

/-- In a calm exchange every act goes well, and its store notes what is written. -/
theorem pass_calm (exchange : Exchange σ (StateM τ)) (source : ChartRequest → StateM τ (List Record))
    (s : σ) (noted : List Record) (t : τ) (acts : List Act) :
    Act.Pass (exchange.calm source s) (noted, t) acts ∧
      (Act.after (exchange.calm source s) (noted, t) acts).1 = noted ++ Act.written acts := by
  induction acts generalizing noted t with
  | nil => exact ⟨trivial, (List.append_nil noted).symm⟩
  | cons act rest ih =>
    cases act with
    | asking request =>
      obtain ⟨pass, left⟩ := ih noted (source request t).2
      exact ⟨⟨rfl, pass⟩, left⟩
    | writing record =>
      obtain ⟨pass, left⟩ := ih (noted ++ [record]) t
      exact ⟨⟨rfl, pass⟩, left.trans (List.append_assoc _ _ _)⟩

theorem errand_calm (s : σ) (plan : Plan) (today : Date) :
    plan.errand (exchange.calm source s) [] today = plan.errand exchange s today :=
  Plan.errand_congr fun _ _ => ⟨rfl, rfl⟩

/-- A query of a calm exchange returns all that its acts write, and notes it. -/
theorem run_carryOut_calm {plan : Plan} {s : σ} {today : Date} {served : List Record}
    {requests : List ChartRequest} (read : plan.errand exchange s today = .ok (served, requests))
    (t : τ) :
    let acts := Act.ofRequests source requests t
    (plan.carryOut (exchange.calm source s) [] today t).1 =
      ⟨.ok (served ++ Act.written acts), Act.written acts, requests.map .chart⟩ := by
  intro acts
  obtain ⟨pass, left⟩ := exchange.pass_calm source s [] t acts
  rw [run_carryOut (exchange.falters_calm source s) ((errand_calm s plan today).trans read) t]
  dsimp only
  rw [Act.performAll_of_pass pass, Act.asked_ofRequests]
  simp only [Outcome.mk.injEq, left, List.nil_append, and_true]
  rfl

end Exchange

end PriceHistory
