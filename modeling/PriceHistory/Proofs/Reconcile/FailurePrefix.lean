import PriceHistory.Proofs.Calendar.Order
import PriceHistory.Proofs.Database.Store
import PriceHistory.Proofs.Reconcile.Acts

/-!
What a query leaves in a database where anything may fail. Its acts go well up to the first that fails,
and the writes among these are what is stored: a prefix of those that it would make if nothing failed.
-/
namespace PriceHistory

open PriceHistory.Calendar PriceHistory.Database

variable {τ : Type} {exchange : Exchange (Nat × Database) (StateM τ)} {faults : Interruptions}

namespace Act

variable {tried : Nat} {db : Database} {t : τ} {done : List Act}

theorem after_of_pass (faulty : exchange.store.put = (Database.store.interrupted faults).put)
    (pass : Pass exchange ((tried, db), t) done) :
    (after exchange ((tried, db), t) done).1 =
      (tried + (written done).length, db.putEach (written done)) := by
  -- Requests leave the store as it is, and each write adds to what is tried and to what is stored.
  induction done generalizing tried db t with
  | nil => exact congrArg (tried, ·) (putEach_nil db).symm
  | cons act rest ih =>
    obtain ⟨fine, others⟩ := pass
    cases act with
    | asking request => exact ih others
    | writing record =>
      have taken : ((Database.store.interrupted faults).put (tried, db) record).1 = .ok () := by
        rw [← faulty]
        exact fine
      have left : ((writing record).perform exchange ((tried, db), t)).2 =
          ((tried + 1, db.putEach [record]), t) := by
        rw [← put_interrupted_of_ok taken, ← faulty]
        rfl
      rw [left] at others
      change (after exchange ((writing record).perform exchange ((tried, db), t)).2 rest).1 = _
      rw [left, ih others, ← putEach_append]
      have longer : (written (writing record :: rest)).length = (written rest).length + 1 := rfl
      refine Prod.ext ?_ rfl
      dsimp only
      omega

/-- An act that fails leaves what those before it have written, and a write that fails counts as
tried. -/
theorem after_of_failed (faulty : exchange.store.put = (Database.store.interrupted faults).put)
    (pass : Pass exchange ((tried, db), t) done) {act : Act} {e : Failure}
    (failed : (act.perform exchange (after exchange ((tried, db), t) done)).1 = .error e) :
    (after exchange ((tried, db), t) (done ++ [act])).1 =
      (tried + (written (done ++ [act])).length, db.putEach (written done)) := by
  -- What comes before the act that fails is known, and the act itself stores nothing.
  have last : after exchange ((tried, db), t) (done ++ [act]) =
      (act.perform exchange (after exchange ((tried, db), t) done)).2 := by
    rw [after, List.foldl_append]
    rfl
  have before := after_of_pass faulty pass
  rw [last, written_append]
  cases act with
  | asking request => exact before.trans (by simp [written])
  | writing record =>
    have refused : ((Database.store.interrupted faults).put
        (after exchange ((tried, db), t) done).1 record).1 = .error e := by
      rw [← faulty]
      exact failed
    rw [before] at refused
    have kept := put_interrupted_of_error refused
    rw [← before, ← faulty] at kept
    refine kept.trans ?_
    simp [written, Nat.add_assoc]

end Act

namespace Exchange

variable {source : ChartRequest → StateM τ (List Record)}

/-- What a plan comes to whose reads go well: its acts are performed up to the first that fails, and
what is stored then is written by those before it. -/
theorem run_carryOut_interrupted (faulty : exchange.store.put = (Database.store.interrupted faults).put)
    (falters : exchange.Falters source) {plan : Plan} {tried : Nat} {db : Database} {today : Date}
    {served : List Record} {requests : List ChartRequest}
    (read : plan.errand exchange (tried, db) today = .ok (served, requests)) (t : τ) :
    let call := plan.carryOut exchange (tried, db) today t
    let acts := Act.ofRequests source requests t
    (∀ done act rest e, acts = done ++ act :: rest → Act.Pass exchange ((tried, db), t) done →
      (act.perform exchange (Act.after exchange ((tried, db), t) done)).1 = .error e →
      call.1 = ⟨.error e, (tried + (Act.written (done ++ [act])).length,
        db.putEach (Act.written done)), Act.asked (done ++ [act])⟩) ∧
    (Act.Pass exchange ((tried, db), t) acts → call.1 = ⟨.ok (served ++ Act.written acts),
      (tried + (Act.written acts).length, db.putEach (Act.written acts)), requests.map .chart⟩) := by
  intro call acts
  have ran : call = _ := run_carryOut falters read t
  dsimp only at ran
  constructor
  -- Performing the acts ends with the first that fails, and so does the query.
  · intro done act rest e split pass failed
    have stopped : Act.performAll exchange (done ++ act :: rest) ((tried, db), t) = _ :=
      Act.performAll_of_failed pass failed
    rw [← split] at stopped
    rw [ran, stopped, Act.after_of_failed faulty pass failed]
    rfl
  · intro pass
    rw [ran, Act.performAll_of_pass pass, Act.after_of_pass faulty pass, Act.asked_ofRequests]
    rfl

/-- What a plan writes, whatever fails, begins the writes that it would make if nothing failed after its
reads. -/
theorem exists_prefix_of_carryOut
    (faulty : exchange.store.put = (Database.store.interrupted faults).put)
    (falters : exchange.Falters source) (plan : Plan) (tried : Nat) (db : Database) (today : Date)
    (t : τ) :
    ∃ kept, kept <+: (plan.carryOut (exchange.calm source (tried, db)) [] today t).1.store ∧
      (plan.carryOut exchange (tried, db) today t).1.store.2 = db.putEach kept := by
  cases read : plan.errand exchange (tried, db) today with
  | error e =>
    refine ⟨[], List.nil_prefix, ?_⟩
    rw [Plan.carryOut_of_error read, putEach_nil]
    rfl
  | ok found =>
    obtain ⟨served, requests⟩ := found
    obtain ⟨stops, passes⟩ := run_carryOut_interrupted faulty falters read t
    let acts := Act.ofRequests source requests t
    rw [run_carryOut_calm read t]
    -- Either every write goes through, or those before the act that fails.
    rcases Act.pass_or_failed exchange ((tried, db), t) acts with
      pass | ⟨done, act, rest, e, split, pass, failed⟩
    · refine ⟨Act.written acts, List.prefix_refl _, ?_⟩
      rw [passes pass]
    · refine ⟨Act.written done, ?_, ?_⟩
      · change Act.written done <+: Act.written acts
        rw [split, Act.written_append]
        exact List.prefix_append _ _
      · rw [stops done act rest e split pass failed]

/-- A query over a database where looks, readings, writes and requests may fail, against the same query
where nothing fails after its reads. If a read fails, that failure is returned, nothing is asked for and
nothing changes. Else the query is left with some requests, and its acts are each request with the
writes of its points behind it. If one of these acts fails and those before it go well, its failure is
returned, nothing is tried or asked for after it, and stored is what the acts before it write. If all go
well, all is returned and stored. In every case stored is a prefix of the writes that would be made if
nothing failed after the reads; no key is taken away, and no row is changed under other keys. -/
theorem failure_leaves_prefix
    (faulty : exchange.store.put = (Database.store.interrupted faults).put)
    (falters : exchange.Falters source) (query : PriceQuery) (today : Date) (tried : Nat)
    (db : Database) (t : τ) :
    let plan := query.plan today
    let call := query.ask exchange (tried, db) today t
    let calm := query.ask (exchange.calm source (tried, db)) [] today t
    (∀ e, plan.ReadFails exchange (tried, db) today e →
      call = (.quiet (.error e) (tried, db), t)) ∧
    ((∀ e, ¬plan.ReadFails exchange (tried, db) today e) → ∃ served requests,
      plan.errand exchange (tried, db) today = .ok (served, requests) ∧
      let acts := Act.ofRequests source requests t
      calm.1 = ⟨.ok (served ++ Act.written acts), Act.written acts, requests.map .chart⟩ ∧
      (∀ done act rest e, acts = done ++ act :: rest → Act.Pass exchange ((tried, db), t) done →
        (act.perform exchange (Act.after exchange ((tried, db), t) done)).1 = .error e →
        call.1 = ⟨.error e, (tried + (Act.written (done ++ [act])).length,
          db.putEach (Act.written done)), Act.asked (done ++ [act])⟩) ∧
      (Act.Pass exchange ((tried, db), t) acts → call.1 = ⟨.ok (served ++ Act.written acts),
        (tried + (Act.written acts).length, db.putEach (Act.written acts)),
        requests.map .chart⟩)) ∧
    ∃ kept, kept <+: calm.1.store ∧ call.1.store.2 = db.putEach kept ∧
      ∀ table, db = ⟨some table⟩ → ∃ after, call.1.store.2 = ⟨some after⟩ ∧
        table.rows.map Row.key <+: after.rows.map Row.key ∧
        ∀ row, (∀ r ∈ kept, ¬row.key.same table.collation (.of r.key)) →
          (row ∈ after.rows ↔ row ∈ table.rows) := by
  intro plan call calm
  have asked : call = plan.carryOut exchange (tried, db) today t :=
    congrFun (query.ask_eq_carryOut exchange (tried, db) today) t
  have askedCalm : calm = plan.carryOut (exchange.calm source (tried, db)) [] today t :=
    congrFun (query.ask_eq_carryOut (exchange.calm source (tried, db)) [] today) t
  refine ⟨?_, ?_, ?_⟩
  · intro e failed
    rw [asked, Plan.carryOut_of_error (Plan.errand_eq_error_iff.mpr failed)]
    rfl
  · intro fine
    cases read : plan.errand exchange (tried, db) today with
    | error e => exact absurd (Plan.errand_eq_error_iff.mp read) (fine e)
    | ok found =>
      obtain ⟨served, requests⟩ := found
      obtain ⟨stops, passes⟩ := run_carryOut_interrupted faulty falters read t
      rw [asked, askedCalm]
      exact ⟨served, requests, rfl, run_carryOut_calm read t, stops, passes⟩
  · obtain ⟨kept, first, stored⟩ := exists_prefix_of_carryOut faulty falters plan tried db today t
    rw [← asked] at stored
    rw [← askedCalm] at first
    refine ⟨kept, first, stored, ?_⟩
    rintro table rfl
    exact ⟨table.putEach kept, stored, Table.keys_prefix_putEach table kept,
      fun row apart => Table.mem_rows_putEach_of_apart apart⟩

/-- A record of such a day as a whole, without prices. -/
private def traded (day volume : Nat) : Record :=
  ⟨.of "aapl" (.ofJune day) .wholeDay, none, none, none, none, (Decimal.of? volume 0).getD .zero⟩

/-- A source that has two points of each day, and none of a span. -/
private def twoEach (request : ChartRequest) : StateM Unit (List Record) :=
  match request with
  | .wholeDay _ _ day => pure [traded day.day 1, traded day.day 2]
  | _ => pure []

/-- A failure that a database reports. -/
private def diskFull : Failure :=
  .database (.reported "disk full")

/-- A database whose third write fails. -/
private def thirdFails : Interruptions :=
  ⟨fun _ => none, fun _ => none, fun i => if i = 2 then some diskFull else none⟩

/-- Of five days one is stored. The third write is the first for the second day that is asked for, so
what is stored are both points of the first. -/
theorem failure_leaves_prefix_third_write :
    let exchange : Exchange (Nat × Database) (StateM Unit) :=
      ⟨Database.store.interrupted thirdFails,
        ⟨fun request => Except.ok <$> twoEach request, pure (.ok []), fun _ => pure (.ok [])⟩⟩
    let t := Table.empty.put (traded 24 3)
    let call := (PriceQuery.overSpan "aapl" .fiveDays).ask exchange (0, ⟨some t⟩) (.ofJune 26) ()
    call.1 = ⟨.error diskFull, (3, ⟨some (t.putEach [traded 25 1, traded 25 2])⟩),
      [25, 23].map fun day => .chart (.wholeDay "aapl" .oneMonth (.ofJune day))⟩ := by
  intro exchange t call
  let query : PriceQuery := .overSpan "aapl" .fiveDays
  let requests : List ChartRequest :=
    [25, 23, 22, 21].map fun day => .wholeDay "aapl" .oneMonth (.ofJune day)
  have read : (query.plan (.ofJune 26)).errand exchange (0, ⟨some t⟩) (.ofJune 26) =
      .ok ([traded 24 3], requests) := by
    decide +kernel
  have faulty : exchange.store.put = (Database.store.interrupted thirdFails).put := rfl
  have answered : exchange.Answered twoEach := fun _ => rfl
  obtain ⟨_, goesOn, _⟩ :=
    failure_leaves_prefix faulty answered.falters query (.ofJune 26) 0 ⟨some t⟩ ()
  have fine (e : Failure) :
      ¬(query.plan (.ofJune 26)).ReadFails exchange (0, ⟨some t⟩) (.ofJune 26) e := by
    rw [← Plan.errand_eq_error_iff, read]
    exact nofun
  obtain ⟨_, _, read', _, stops, _⟩ := goesOn fine
  obtain ⟨-, rfl⟩ := Prod.mk.inj (Except.ok.inj (read.symm.trans read'))
  let done : List Act := [.asking (.wholeDay "aapl" .oneMonth (.ofJune 25)), .writing (traded 25 1),
    .writing (traded 25 2), .asking (.wholeDay "aapl" .oneMonth (.ofJune 23))]
  have pass : Act.Pass exchange ((0, ⟨some t⟩), ()) done := by
    refine ⟨?_, ?_, ?_, ?_, trivial⟩ <;> decide +kernel
  have failed : ((Act.writing (traded 23 1)).perform exchange
      (Act.after exchange ((0, ⟨some t⟩), ()) done)).1 = .error diskFull := by
    decide +kernel
  let rest := (Act.ofRequests twoEach requests ()).drop 5
  have split : Act.ofRequests twoEach requests () = done ++ .writing (traded 23 1) :: rest := by
    decide +kernel
  exact stops done _ rest diskFull split pass failed

end Exchange

end PriceHistory
