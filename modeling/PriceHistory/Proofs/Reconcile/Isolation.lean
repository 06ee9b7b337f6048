import PriceHistory.Proofs.Calendar.Order
import PriceHistory.Proofs.Database.Agreement
import PriceHistory.Proofs.Reconcile.Filled

/-!
Queries for different symbols in one table. With a provider whose answers depend on the requests alone, a
query reads and writes the rows of its own symbol and no others: its effect is a list of records of the
symbol, the same over every table that has the same rows of it. So queries for two symbols may change
places, and a symbol may be spelled in any way that comes to the same.
-/
namespace PriceHistory

open PriceHistory.Calendar PriceHistory.Database

/-! ### What a plan looks at and asks for -/

namespace Plan

variable {σ : Type} {m : Type → Type} {exchange : Exchange σ m} {s : σ} {today : Date} {plan : Plan}
  {symbol : Symbol}

theorem Under.symbol_of_looks (under : plan.Under symbol) {key : Key} (looked : plan.Looks today key) :
    key.symbol = symbol := by
  cases plan with
  | nothing => cases looked
  | minutes named span day => obtain rfl | ⟨time, _, rfl⟩ := looked <;> exact under
  | days named span =>
    obtain ⟨day, _, rfl⟩ := looked
    exact under

/-- Points are filed under the symbol of the plan, whatever symbol they come with. -/
theorem Under.symbol_of_form (under : plan.Under symbol) {served : List Record}
    {requests : List ChartRequest} (read : plan.errand exchange s today = .ok (served, requests)) :
    ∀ request ∈ requests, ∀ p, (request.form p).key.symbol = symbol := by
  cases plan with
  | nothing =>
    cases read
    simp
  | minutes named span day =>
    rw [errand] at read
    cases stored : exchange.storedDay? s named day with
    | error e =>
      rw [stored] at read
      cases read
    | ok found =>
      rw [stored] at read
      cases found with
      | some records =>
        cases read
        simp
      | none =>
        cases read
        simp only [List.forall_mem_singleton]
        exact fun p => under
  | days named span =>
    intro request member p
    rw [form_of_days read request member]
    exact under

end Plan

namespace Exchange

variable {provider : Provider Id} {a b t : Table} {symbol : Symbol} {today : Date}

/-- Tables that agree about the symbol of a plan are read alike. -/
theorem errand_eq_of_agreeAbout {plan : Plan} (under : plan.Under symbol) (keyed : a.Keyed)
    (keyed' : b.Keyed) (agree : a.AgreeAbout symbol b) :
    plan.errand ⟨Database.store, provider⟩ ⟨some a⟩ today =
      plan.errand ⟨Database.store, provider⟩ ⟨some b⟩ today := by
  have tables : a.AgreeOn (fun key => key.symbol = symbol) b :=
    ⟨keyed.exact.trans keyed'.exact.symm, fun _ own => agree.row? keyed keyed' own⟩
  have databases : AgreeOn (fun key => key.symbol = symbol) ⟨some a⟩ ⟨some b⟩ := .some tables
  apply Plan.errand_congr
  intro key looked
  have own := under.symbol_of_looks looked
  exact ⟨databases.has own, databases.find? own⟩

/-! ### The effect of a query -/

/-- Requests write the same records over every table. -/
theorem fetchEach_effect (provider : Provider Id) (requests : List ChartRequest) :
    ∃ result records made, (∀ r ∈ records, ∃ request ∈ requests, ∃ p, r = request.form p) ∧
      ∀ t, fetchEach ⟨Database.store, provider⟩ requests ⟨some t⟩ =
        ⟨result, ⟨some (t.putEach records)⟩, made⟩ := by
  induction requests with
  | nil => exact ⟨.ok [], [], [], by simp, fun t => rfl⟩
  | cons request rest ih =>
    have step (t : Table) : fetchEach ⟨Database.store, provider⟩ (request :: rest) ⟨some t⟩ =
        (received ⟨Database.store, provider⟩ request request.form ⟨some t⟩
          (provider.chart request)).andThen (fetchEach ⟨Database.store, provider⟩ rest) := rfl
    cases answered : provider.chart request with
    | error e =>
      refine ⟨.error e, [], [.chart request], by simp, fun t => ?_⟩
      rw [step, answered]
      rfl
    | ok points =>
      obtain ⟨result, records, made, own, ran⟩ := ih
      refine ⟨result.map (points.map request.form ++ ·), points.map request.form ++ records,
        .chart request :: made, ?_, fun t => ?_⟩
      · intro r member
        rcases List.mem_append.mp member with first | later
        · obtain ⟨p, _, rfl⟩ := List.mem_map.mp first
          exact ⟨request, List.mem_cons_self, p, rfl⟩
        · obtain ⟨other, among, p, same⟩ := own r later
          exact ⟨other, List.mem_cons_of_mem request among, p, same⟩
      · -- The others are made over the table with these points in it, which changes nothing for them.
        rw [step, answered, received_ok rfl, Outcome.andThen_of_ok rfl, ran, Table.putEach_append]
        rfl

/-- A query comes to the same result and the same requests over every table that agrees about its symbol,
and writes the same records of this symbol there. -/
theorem ask_effect (provider : Provider Id) (today : Date) (query : PriceQuery) (keyed : t.Keyed) :
    ∃ result records made, (∀ r ∈ records, r.key.symbol = query.symbol) ∧
      ∀ other : Table, other.Keyed → t.AgreeAbout query.symbol other →
        query.ask ⟨Database.store, provider⟩ ⟨some other⟩ today =
          ⟨result, ⟨some (other.putEach records)⟩, made⟩ := by
  simp only [PriceQuery.ask_eq_carryOut]
  have under := query.plan_under today
  generalize query.plan today = plan at under
  -- The plan is read alike over all of these tables, so what is left to ask for is the same.
  cases read : plan.errand ⟨Database.store, provider⟩ ⟨some t⟩ today with
  | error e =>
    refine ⟨.error e, [], [], by simp, fun other keyed' agree => ?_⟩
    rw [errand_eq_of_agreeAbout under keyed keyed' agree] at read
    exact Plan.carryOut_of_error read
  | ok found =>
    obtain ⟨served, requests⟩ := found
    obtain ⟨result, records, made, own, ran⟩ := fetchEach_effect provider requests
    refine ⟨result.map (served ++ ·), records, made, ?_, fun other keyed' agree => ?_⟩
    · intro r member
      obtain ⟨request, among, p, rfl⟩ := own r member
      exact under.symbol_of_form read request among p
    · rw [errand_eq_of_agreeAbout under keyed keyed' agree] at read
      rw [Plan.carryOut_of_ok read, ran]
      rfl

end Exchange

/-- The outcomes of queries that are put one after another on one day, each over what the one before it
left. -/
def PriceQuery.outcomes (exchange : Exchange Database Id) (today : Date) :
    Database → List PriceQuery → List (Outcome Database (List Record))
  | _, [] => []
  | db, query :: rest =>
    let outcome : Outcome Database (List Record) := query.ask exchange db today
    outcome :: outcomes exchange today outcome.store rest

namespace Exchange

variable {a b t : Table} {today : Date}

/-- A query over two tables that agree about its symbol. -/
theorem ask_isolated (provider : Provider Id) (today : Date) (query : PriceQuery) (keyed : a.Keyed)
    (keyed' : b.Keyed) (agree : a.AgreeAbout query.symbol b) :
    ∃ result made a' b', query.ask ⟨Database.store, provider⟩ ⟨some a⟩ today = ⟨result, ⟨some a'⟩, made⟩ ∧
      query.ask ⟨Database.store, provider⟩ ⟨some b⟩ today = ⟨result, ⟨some b'⟩, made⟩ ∧
      a'.Keyed ∧ b'.Keyed ∧ a'.AgreeAbout query.symbol b' ∧
      ∀ row : Row, row.key.symbol ≠ .text query.symbol.text →
        (row ∈ a'.rows ↔ row ∈ a.rows) ∧ (row ∈ b'.rows ↔ row ∈ b.rows) := by
  obtain ⟨result, records, made, own, ran⟩ := ask_effect provider today query keyed
  refine ⟨result, made, a.putEach records, b.putEach records, ran a keyed fun _ _ => Iff.rfl,
    ran b keyed' agree, keyed.putEach records, keyed'.putEach records,
    agree.putEach keyed keyed' records, fun row foreign => ?_⟩
  exact ⟨keyed.mem_rows_putEach_of_symbol own foreign, keyed'.mem_rows_putEach_of_symbol own foreign⟩

/-- Two queries for different symbols, in both orders. -/
theorem ask_swapped (provider : Provider Id) (today : Date) {one other : PriceQuery}
    (apart : one.symbol ≠ other.symbol) (keyed : t.Keyed) :
    ∃ result made result' made' u v after after',
      PriceQuery.outcomes ⟨Database.store, provider⟩ today ⟨some t⟩ [one, other] =
        [⟨result, ⟨some u⟩, made⟩, ⟨result', ⟨some after⟩, made'⟩] ∧
      PriceQuery.outcomes ⟨Database.store, provider⟩ today ⟨some t⟩ [other, one] =
        [⟨result', ⟨some v⟩, made'⟩, ⟨result, ⟨some after'⟩, made⟩] ∧
      after.collation = after'.collation ∧ after.rows.Perm after'.rows := by
  obtain ⟨result, records, made, own, ran⟩ := ask_effect provider today one keyed
  obtain ⟨result', records', made', own', ran'⟩ := ask_effect provider today other keyed
  refine ⟨result, made, result', made', t.putEach records, t.putEach records',
    (t.putEach records).putEach records', (t.putEach records').putEach records, ?_, ?_, by simp,
    keyed.perm_putEach_putEach apart own own'⟩
  -- What the first of them writes is not of the symbol that the second one is about.
  · have second := ran' _ (keyed.putEach records) (keyed.agreeAbout_putEach apart.symm own)
    rw [PriceQuery.outcomes, ran t keyed fun _ _ => Iff.rfl, PriceQuery.outcomes, second]
    rfl
  · have second := ran _ (keyed.putEach records') (keyed.agreeAbout_putEach apart own')
    rw [PriceQuery.outcomes, ran' t keyed fun _ _ => Iff.rfl, PriceQuery.outcomes, second]
    rfl

end Exchange

/-! ### Spellings -/

namespace PriceQuery

/-- A historical query depends on its symbol as it is in uppercase and without the blanks around it. -/
theorem ask_historicalPrices_congr {σ : Type} {m : Type → Type} [Monad m] {symbol spelling : String}
    (same : Symbol.of (Text.trim symbol) = .of (Text.trim spelling)) (range date : Option String)
    (exchange : Exchange σ m) (s : σ) (today : Date) :
    (historicalPrices symbol range date).ask exchange s today =
      (historicalPrices spelling range date).ask exchange s today := by
  have upper : Text.upper (Text.trim symbol) = Text.upper (Text.trim spelling) := by
    simpa only [Symbol.of, Symbol.mk.injEq] using same
  rw [ask_eq_carryOut, ask_eq_carryOut, plan, plan, upper]

theorem outcomes_congr {exchange : Exchange Database Id} {today : Date} {one other : PriceQuery}
    (same : ∀ db, one.ask exchange db today = other.ask exchange db today) (db : Database)
    (before after : List PriceQuery) :
    outcomes exchange today db (before ++ one :: after) =
      outcomes exchange today db (before ++ other :: after) := by
  induction before generalizing db with
  | nil => rw [List.nil_append, List.nil_append, outcomes, outcomes, same]
  | cons first before ih =>
    rw [List.cons_append, List.cons_append, outcomes, outcomes, ih]

end PriceQuery

namespace Exchange

/-- A historical query to a provider whose answers depend on the requests alone, over tables that tell
all keys apart. Over two tables with the same rows of its symbol it comes to the same result and the same
requests, and they still have the same rows of it afterwards; rows of other symbols stay as they are,
whatever symbols the points of the provider have. A query for another symbol may come before it or after
it: either order gives each of them its result and its requests, and leaves the same rows. In any
sequence of queries its symbol may be spelled with other blanks around it, or in another case. -/
theorem historicalPrices_isolated (provider : Provider Id) (today : Date) (symbol : String)
    (range date : Option String) :
    let exchange : Exchange Database Id := ⟨Database.store, provider⟩
    let own := Symbol.of (Text.trim symbol)
    let call (db : Database) : Outcome Database (List Record) :=
      exchange.historicalPrices db today symbol range date
    let ran := PriceQuery.outcomes exchange today
    (∀ a b : Table, a.Keyed → b.Keyed → a.AgreeAbout own b →
      ∃ result made a' b', call ⟨some a⟩ = ⟨result, ⟨some a'⟩, made⟩ ∧
        call ⟨some b⟩ = ⟨result, ⟨some b'⟩, made⟩ ∧ a'.Keyed ∧ b'.Keyed ∧ a'.AgreeAbout own b' ∧
        ∀ row : Row, row.key.symbol ≠ .text own.text →
          (row ∈ a'.rows ↔ row ∈ a.rows) ∧ (row ∈ b'.rows ↔ row ∈ b.rows)) ∧
    (∀ (other : String) (range' date' : Option String), own ≠ .of (Text.trim other) →
      ∀ t : Table, t.Keyed → ∃ result made result' made' u v after after',
        ran ⟨some t⟩ [.historicalPrices symbol range date, .historicalPrices other range' date'] =
          [⟨result, ⟨some u⟩, made⟩, ⟨result', ⟨some after⟩, made'⟩] ∧
        ran ⟨some t⟩ [.historicalPrices other range' date', .historicalPrices symbol range date] =
          [⟨result', ⟨some v⟩, made'⟩, ⟨result, ⟨some after'⟩, made⟩] ∧
        after.collation = after'.collation ∧ after.rows.Perm after'.rows) ∧
    ∀ spelling : String, own = .of (Text.trim spelling) → ∀ db before after,
      ran db (before ++ .historicalPrices symbol range date :: after) =
        ran db (before ++ .historicalPrices spelling range date :: after) := by
  intro exchange own call ran
  let query : PriceQuery := .historicalPrices symbol range date
  refine ⟨?_, ?_, ?_⟩
  · intro a b keyed keyed' agree
    obtain ⟨result, made, a', b', ran, ran', whole, whole', still, others⟩ :=
      ask_isolated provider today query keyed keyed' agree
    exact ⟨result, made, a', b', ran, ran', whole, whole', still, others⟩
  · intro other range' date' apart t keyed
    have distinct : query.symbol ≠ (PriceQuery.historicalPrices other range' date').symbol := apart
    exact ask_swapped provider today distinct keyed
  · intro spelling same
    exact PriceQuery.outcomes_congr
      (PriceQuery.ask_historicalPrices_congr same range date exchange · today)

/-- A point of a Friday. -/
private def onFriday (symbol : String) (slot : Slot) : Record :=
  ⟨.of symbol (.ofJune 25) slot, none, none, none, none, .zero⟩

/-- A provider that answers every request with the same two points, of other symbols. -/
private def foreign : Provider Id where
  chart _ := .ok [onFriday "ibm" .marker, onFriday "ko" (.minute ⟨13, 45, by omega, by omega⟩)]
  listings := .ok []
  lastTrades _ := .ok []

/-- One day of one symbol, over an empty table and over one that has a row of another symbol. That symbol's
own query finds the row, whether it comes before or after. -/
theorem historicalPrices_isolated_two_symbols :
    let exchange : Exchange Database Id := ⟨Database.store, foreign⟩
    let day : PriceQuery := .historicalPrices "aapl" none (some "20210625")
    let span : PriceQuery := .historicalPrices "msft" (some "5d") none
    let ran := PriceQuery.outcomes exchange (.ofJune 26)
    let other : Table := Table.empty.putEach [onFriday "msft" .wholeDay]
    let told (outcome : Outcome Database (List Record)) :=
      (outcome.result.map List.length, outcome.requests.length)
    (∃ result made a' b', ran ⟨some .empty⟩ [day] = [⟨result, ⟨some a'⟩, made⟩] ∧
      ran ⟨some other⟩ [day] = [⟨result, ⟨some b'⟩, made⟩] ∧ told ⟨result, ⟨some a'⟩, made⟩ = (.ok 2, 1) ∧
      ∀ row : Row, row.key.symbol = .text "MSFT" → (row ∈ b'.rows ↔ row ∈ other.rows)) ∧
    (∃ after after', ((ran ⟨some other⟩ [day, span]).map told) = [(.ok 2, 1), (.ok 9, 4)] ∧
      (ran ⟨some other⟩ [span, day]).map told = [(.ok 9, 4), (.ok 2, 1)] ∧
      (ran ⟨some other⟩ [day, span]).getLast?.map (·.store) = some ⟨some after⟩ ∧
      (ran ⟨some other⟩ [span, day]).getLast?.map (·.store) = some ⟨some after'⟩ ∧
      after.rows.Perm after'.rows) ∧
    ran ⟨some other⟩ [span, day] =
      ran ⟨some other⟩ [span, .historicalPrices "\tAapl " none (some "20210625")] := by
  intro exchange day span ran other told
  obtain ⟨isolated, swapped, spelled⟩ :=
    historicalPrices_isolated foreign (.ofJune 26) "aapl" none (some "20210625")
  have keyed : other.Keyed := Table.Keyed.empty.putEach _
  have apart : Symbol.of (Text.trim "aapl") ≠ .of "msft" := by decide +kernel
  have agree : Table.empty.AgreeAbout (.of (Text.trim "aapl")) other := by
    apply Table.Keyed.empty.agreeAbout_putEach apart
    rw [List.forall_mem_singleton]
    rfl
  refine ⟨?_, ?_, spelled "\tAapl " (by decide +kernel) ⟨some other⟩ [span] []⟩
  · obtain ⟨result, made, a', b', alone, beside, _, _, _, others⟩ :=
      isolated .empty other .empty keyed agree
    have there : (ran ⟨some .empty⟩ [day]).map told = [(.ok 2, 1)] := by decide +kernel
    have first : ran ⟨some .empty⟩ [day] = [⟨result, ⟨some a'⟩, made⟩] := congrArg (· :: []) alone
    rw [first] at there
    refine ⟨result, made, a', b', first, congrArg (· :: []) beside, (List.cons.inj there).1, ?_⟩
    intro row foreign
    refine (others row ?_).2
    rw [foreign]
    decide +kernel
  · obtain ⟨result, made, result', made', u, v, after, after', one, two, _, same⟩ :=
      swapped "msft" (some "5d") none (by decide +kernel) other keyed
    have here : (ran ⟨some other⟩ [day, span]).map told = [(.ok 2, 1), (.ok 9, 4)] := by decide +kernel
    have there : (ran ⟨some other⟩ [span, day]).map told = [(.ok 9, 4), (.ok 2, 1)] := by decide +kernel
    let last (outcomes : List (Outcome Database (List Record))) := outcomes.getLast?.map (·.store)
    exact ⟨after, after', here, there, congrArg last one, congrArg last two, same⟩

end Exchange

end PriceHistory
