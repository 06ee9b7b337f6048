import PriceHistory.Proofs.Calendar.Order
import PriceHistory.Proofs.Provider.Client
import PriceHistory.Proofs.Reconcile.Heard

/-!
Replies to requests for charts. A reply is taken whole or not at all: either all items of its list are
points, and those with a readable date and minute are the answer, or the request fails and nothing of it
is filed. So points that cannot be read may as well not be there.
-/
namespace PriceHistory

open PriceHistory.Calendar PriceHistory.Database PriceHistory.Web

variable {τ : Type}

/-! ### One request -/

namespace Client

variable {client : Client} {transport : Transport (StateM τ)} {request : ChartRequest} {url : Url}

theorem run_chart_of_unsendable {fault : ProviderFault}
    (unsendable : client.sentUrl? (client.chartAddress request) = .error fault) (before : τ) :
    client.chart transport request before = (.error (.provider fault), before) := by
  rw [chart_eq, fetch_of_unsendable unsendable]
  rfl

theorem run_chart_of_sent (sent : client.sentUrl? (client.chartAddress request) = .ok url) (before : τ) :
    client.chart transport request before =
      ((received ChartPoint.ofJson? (client.chartAddress request) url (transport url before).1).map
        (List.filterMap (·.record? (chartSymbol request))), (transport url before).2) := by
  rw [chart_eq, fetch_of_sent sent]
  rfl

/-- A request that was sent ends in a fault of the network where no reply comes or where the status
tells of no success, in a fault of its form where the body does not show points, and else in the records
of the points that can be read. -/
theorem chart_whole (sent : client.sentUrl? (client.chartAddress request) = .ok url) (before : τ) :
    let call := client.chart transport request before
    call.2 = (transport url before).2 ∧
      ((transport url before).1 = none →
        call.1 = .error (.provider (faultAt "error sending request" url))) ∧
      ∀ reply, (transport url before).1 = some reply →
        (¬(200 ≤ reply.status ∧ reply.status < 300) → call.1 = .error (.provider (.network
          ("IEX returned " ++ Status.text reply.status ++ " for " ++ (client.chartAddress request).text)))) ∧
        (200 ≤ reply.status ∧ reply.status < 300 → (¬∃ points, reply.Shows points) →
          call.1 = .error (.provider (.parse "error decoding response body"))) ∧
        ∀ points, 200 ≤ reply.status ∧ reply.status < 300 → reply.Shows points →
          ∃ records, call.1 = .ok records ∧
            List.Forall₂ (ChartPoint.FiledAs (chartSymbol request)) (points.filter (·.Readable)) records := by
  intro call
  have ran : call = _ := run_chart_of_sent sent before
  rw [ran]
  -- What comes back and its status decide, and in case of success what the body shows.
  refine ⟨rfl, fun dropped => ?_, fun reply arrived => ⟨fun refused => ?_, fun success unread => ?_,
    fun points success shown => ?_⟩⟩
  · rw [dropped]
    rfl
  · rw [arrived, received, readReply_of_refused refused]
    rfl
  · have nothing : (reply.body.bind Json.ofBytes?).bind (Json.items? ChartPoint.ofJson?) = none := by
      rw [Option.eq_none_iff_forall_ne_some]
      exact fun points found => unread ⟨points, Reply.shows_iff.mpr found⟩
    rw [arrived, received, readReply_of_unread success nothing]
    rfl
  · rw [arrived, received, readReply_of_read success (Reply.shows_iff.mp shown)]
    exact ⟨_, rfl, ChartPoint.filedAs_filterMap _ points⟩

end Client

/-! ### One query -/

theorem Provider.Serves.eq_of_failed {provider : Provider (StateM τ)} {requests : List ChartRequest}
    {source later : τ} {heard : List Heard} {result : Except Failure (List Record)}
    (serves : provider.Serves requests source heard result later) {h : Heard} (member : h ∈ heard)
    {e : Failure} (failed : h.answer = .error e) : result = .error e := by
  induction serves with
  | done => cases member
  | failed =>
    rw [List.mem_singleton.mp member] at failed
    cases failed
    rfl
  | answered _ _ ih =>
    cases member with
    | head => cases failed
    | tail _ among =>
      rw [ih among]
      rfl

/-- A query over a table makes requests until one fails, and writes the points of those that were
answered. -/
theorem Exchange.ask_serves {exchange : Exchange Database (StateM τ)}
    (plain : exchange.store = Database.store) (query : PriceQuery) (t : Table) (today : Date) (source : τ) :
    let call := query.ask exchange ⟨some t⟩ today source
    ∃ requests heard result, exchange.provider.Serves requests source heard result call.2 ∧
      call.1.requests = heard.map (.chart ·.request) ∧
      call.1.store = ⟨some (t.putEach (heard.flatMap Heard.filed))⟩ ∧
      ∀ h ∈ heard, ∀ e, h.answer = .error e → call.1.result = .error e := by
  intro call
  have ran : call = (query.plan today).carryOut exchange ⟨some t⟩ today source :=
    congrFun (query.ask_eq_carryOut exchange ⟨some t⟩ today) source
  rw [ran]
  cases read : (query.plan today).errand exchange ⟨some t⟩ today with
  | error e =>
    rw [Plan.carryOut_of_error read]
    exact ⟨[], [], .ok [], .done source, rfl, rfl, by simp⟩
  | ok found =>
    obtain ⟨served, requests⟩ := found
    obtain ⟨heard, result, later, serves, made, _⟩ := carryOut_serves plain read source
    rw [made]
    refine ⟨requests, heard, result, serves, rfl, rfl, fun h member e failed => ?_⟩
    rw [serves.eq_of_failed member failed]
    rfl

/-! ### Points that cannot be read -/

/-- Is the second list the first one without some members, all of which may go? -/
inductive Pruned {α : Type} (spare : α → Prop) : List α → List α → Prop where
  | nil : Pruned spare [] []
  | keep (x : α) {xs ys : List α} (rest : Pruned spare xs ys) : Pruned spare (x :: xs) (x :: ys)
  | drop {x : α} (gone : spare x) {xs ys : List α} (rest : Pruned spare xs ys) : Pruned spare (x :: xs) ys

theorem Pruned.filterMap_eq {α β : Type} {spare : α → Prop} {f : α → Option β} {xs ys : List α}
    (pruned : Pruned spare xs ys) (nothing : ∀ x, spare x → f x = none) :
    xs.filterMap f = ys.filterMap f := by
  induction pruned with
  | nil => rfl
  | keep x _ ih => rw [List.filterMap_cons, List.filterMap_cons, ih]
  | drop gone _ ih => rw [List.filterMap_cons_none (nothing _ gone), ih]

/-- Is the second reply the first one, save that its list may lack points that cannot be read? -/
def Web.Reply.Pruned (whole part : Reply) : Prop :=
  whole = part ∨ whole.status = part.status ∧ ∃ points kept,
    whole.Shows points ∧ part.Shows kept ∧ PriceHistory.Pruned (¬·.Readable) points kept

namespace Client

/-- Points that cannot be read make no difference to what comes of a reply. -/
theorem received_of_pruned {whole part : Reply} (pruned : whole.Pruned part) (address : Address)
    (url : Url) (symbol : String) :
    (received ChartPoint.ofJson? address url (some whole)).map (List.filterMap (·.record? symbol)) =
      (received ChartPoint.ofJson? address url (some part)).map (List.filterMap (·.record? symbol)) := by
  rcases pruned with rfl | ⟨status, points, kept, shown, shown', pruned⟩
  · rfl
  · -- The points that differ have no records.
    by_cases success : 200 ≤ whole.status ∧ whole.status < 300
    · have same := pruned.filterMap_eq fun p unread =>
        (ChartPoint.record?_eq_none_iff : p.record? symbol = none ↔ _).mpr unread
      rw [received, received, readReply_of_read success (Reply.shows_iff.mp shown),
        readReply_of_read (status ▸ success) (Reply.shows_iff.mp shown')]
      exact congrArg Except.ok same
    · rw [received, received, readReply_of_refused success, readReply_of_refused (status ▸ success),
        status]

theorem chart_of_pruned {client : Client} {whole part : Transport (StateM τ)}
    (pruned : ∀ url before, (whole url before).2 = (part url before).2 ∧
      Option.Rel Reply.Pruned (whole url before).1 (part url before).1) :
    (client.provider whole).chart = (client.provider part).chart := by
  funext request before
  change client.chart whole request before = client.chart part request before
  cases made : client.sentUrl? (client.chartAddress request) with
  | error fault => rw [run_chart_of_unsendable made, run_chart_of_unsendable made]
  | ok url =>
    rw [run_chart_of_sent made, run_chart_of_sent made]
    obtain ⟨later, replies⟩ := pruned url before
    rw [later]
    generalize (whole url before).1 = arrived at replies
    generalize (part url before).1 = arrived' at replies
    cases replies with
    | none => rfl
    | some reply => rw [received_of_pruned reply]

/-- A client with any way to the web. A request for a chart that makes no URL to send is a fault of the
network, and nothing is sent. What is sent is a fault too where no reply comes, where the status tells of
no success, or where the body is not a list all of whose items are points; else the answer has the points
whose date and minute can be read, in their order. A query files the points of the requests that were
answered, and ends with the first that was not, of which nothing is filed. So it makes no difference to
any query, over any store, whether points that cannot be read are in the lists of the replies. -/
theorem replies_taken_whole (client : Client) (transport : Transport (StateM τ)) :
    let provider := client.provider transport
    (∀ request before fault, client.sentUrl? (client.chartAddress request) = .error fault →
      provider.chart request before = (.error (.provider fault), before) ∧ ∃ text, fault = .network text) ∧
    (∀ request before url, client.sentUrl? (client.chartAddress request) = .ok url →
      let call := provider.chart request before
      call.2 = (transport url before).2 ∧
        ((transport url before).1 = none →
          call.1 = .error (.provider (faultAt "error sending request" url))) ∧
        ∀ reply, (transport url before).1 = some reply →
          (¬(200 ≤ reply.status ∧ reply.status < 300) → call.1 = .error (.provider (.network
            ("IEX returned " ++ Status.text reply.status ++ " for " ++ (client.chartAddress request).text)))) ∧
          (200 ≤ reply.status ∧ reply.status < 300 → (¬∃ points, reply.Shows points) →
            call.1 = .error (.provider (.parse "error decoding response body"))) ∧
          ∀ points, 200 ≤ reply.status ∧ reply.status < 300 → reply.Shows points →
            ∃ records, call.1 = .ok records ∧ List.Forall₂ (ChartPoint.FiledAs (chartSymbol request))
              (points.filter (·.Readable)) records) ∧
    (∀ (query : PriceQuery) (t : Table) today before,
      let call := query.ask ⟨Database.store, provider⟩ ⟨some t⟩ today before
      ∃ requests heard result, provider.Serves requests before heard result call.2 ∧
        call.1.requests = heard.map (.chart ·.request) ∧
        call.1.store = ⟨some (t.putEach (heard.flatMap Heard.filed))⟩ ∧
        ∀ h ∈ heard, ∀ e, h.answer = .error e → call.1.result = .error e) ∧
    ∀ part : Transport (StateM τ),
      (∀ url before, (transport url before).2 = (part url before).2 ∧
        Option.Rel Reply.Pruned (transport url before).1 (part url before).1) →
      ∀ {σ : Type} (store : Store σ) (query : PriceQuery) (s : σ) today,
        query.ask ⟨store, provider⟩ s today = query.ask ⟨store, client.provider part⟩ s today := by
  intro provider
  refine ⟨?_, ?_, ?_, ?_⟩
  · intro request before fault unsendable
    exact ⟨run_chart_of_unsendable unsendable before, network_of_unsendable unsendable⟩
  · intro request before url sent
    exact chart_whole sent before
  · intro query t today before
    have plain : (Exchange.mk Database.store provider).store = Database.store := rfl
    exact Exchange.ask_serves plain query t today before
  · intro part pruned _ store query s today
    rw [PriceQuery.ask_eq_carryOut, PriceQuery.ask_eq_carryOut]
    exact Plan.carryOut_eq_of_chart (chart_of_pruned pruned) _ s today

private def jsonObject (members : String) : String :=
  "\x7b" ++ members ++ "\x7d"

/-- Points of the 24th, with others beside it, and a list in which the second point has no date. -/
private def twoBodies (beside : List String) : List String :=
  ["[" ++ ",".intercalate (jsonObject "\"date\":\"2021-06-24\",\"close\":2,\"volume\":5" :: beside) ++ "]",
    "[" ++ jsonObject "\"date\":\"2021-06-23\",\"close\":3" ++ "," ++ jsonObject "\"close\":4" ++ "]"]

/-- A web that replies to two requests with these, and to no other. It counts them. -/
private def twoReplies (beside : List String) : Transport (StateM Nat) := fun _ n =>
  ((twoBodies beside)[n]?.map fun body => ⟨200, body.toList.map Json.byte⟩, n + 1)

/-- A point that cannot be read is left out of the first reply, and the second is not taken at all. -/
theorem replies_taken_whole_two_days :
    let client := Client.of "http://iex.test/" none
    let spare := [jsonObject "\"date\":\"soon\",\"close\":9"]
    let provider := client.provider (twoReplies spare)
    let asked (day : Nat) := ChartRequest.wholeDay "aapl" .oneMonth (.ofJune day)
    let stored : Record := ⟨.of "aapl" (.ofJune 25) .wholeDay, none, none, none, none, .zero⟩
    let t : Table := .put .empty stored
    let query : PriceQuery := .overSpan "aapl" .fiveDays
    let call := query.ask ⟨Database.store, provider⟩ ⟨some t⟩ (.ofJune 26) 0
    (∃ record, (provider.chart (asked 24) 0).1 = .ok [record] ∧ record.key.symbol = .of "aapl" ∧
        record.key.date = .ofJune 24 ∧ record.close = Decimal.of? 2 0 ∧ some record.volume = Decimal.of? 5 0) ∧
      (provider.chart (asked 23) 1).1 = .error (.provider (.parse "error decoding response body")) ∧
      call.1.result = .error (.provider (.parse "error decoding response body")) ∧ call.2 = 2 ∧
      call.1.store.has (.of "aapl" (.ofJune 24) .wholeDay) = .ok true ∧
      call.1.store.has (.of "aapl" (.ofJune 23) .wholeDay) = .ok false ∧
      call = query.ask ⟨Database.store, client.provider (twoReplies [])⟩ ⟨some t⟩ (.ofJune 26) 0 := by
  intro client spare provider asked stored t query call
  obtain ⟨_, sent, _, spared⟩ := replies_taken_whole client (twoReplies spare)
  have sendable (day : Nat) (isOk : (client.sentUrl? (client.chartAddress (asked day))).isOk = true) :
      ∃ url, client.sentUrl? (client.chartAddress (asked day)) = .ok url := by
    cases made : client.sentUrl? (client.chartAddress (asked day)) with
    | error fault => rw [made] at isOk; cases isOk
    | ok url => exact ⟨url, rfl⟩
  obtain ⟨first, firstSent⟩ := sendable 24 (by decide +kernel)
  obtain ⟨second, secondSent⟩ := sendable 23 (by decide +kernel)
  -- The first reply shows two points, of which one can be read.
  let dated : ChartPoint := ⟨"2021-06-24", none, none, none, none, Decimal.of? 2 0, Decimal.of? 5 0⟩
  let soon : ChartPoint := ⟨"soon", none, none, none, none, Decimal.of? 9 0, none⟩
  let reply (n : Nat) : Reply := ⟨200, ((twoBodies spare)[n]?.getD "").toList.map Json.byte⟩
  have shown : (reply 0).Shows [dated, soon] := Reply.shows_iff.mpr (by decide +kernel)
  obtain ⟨records, answered, filed⟩ := ((sent (asked 24) 0 first firstSent).2.2 (reply 0) rfl).2.2 _
    (by decide) shown
  have one : [dated, soon].filter (·.Readable) = [dated] := by decide +kernel
  -- The second shows none.
  have unread : ¬∃ points, (reply 1).Shows points := by
    rintro ⟨points, shown⟩
    have nothing : ((reply 1).body.bind Json.ofBytes?).bind (Json.items? ChartPoint.ofJson?) = none := by
      decide +kernel
    rw [Reply.shows_iff, nothing] at shown
    cases shown
  have refused := ((sent (asked 23) 1 second secondSent).2.2 (reply 1) rfl).2.1 (by decide) unread
  have ran : call.1.result = .error (.provider (.parse "error decoding response body")) ∧ call.2 = 2 ∧
      call.1.store.has (.of "aapl" (.ofJune 24) .wholeDay) = .ok true ∧
      call.1.store.has (.of "aapl" (.ofJune 23) .wholeDay) = .ok false := by
    decide +kernel
  refine ⟨?_, refused, ran.1, ran.2.1, ran.2.2.1, ran.2.2.2, ?_⟩
  · rw [one] at filed
    cases filed with
    | @cons _ record _ _ own rest =>
      cases rest
      refine ⟨record, answered, own.symbol, ?_, own.close, ?_⟩
      · have read : Date.ofText? "2021-06-24" = some (.ofJune 24) := by decide +kernel
        exact Option.some.inj (own.date.symm.trans read)
      · rw [own.volume]
        decide +kernel
  · refine congrFun (spared (twoReplies []) ?_ Database.store query ⟨some t⟩ (.ofJune 26)) 0
    intro url n
    refine ⟨rfl, ?_⟩
    match n with
    | 0 =>
      have alone : Reply.Shows ⟨200, ((twoBodies [])[0]?.getD "").toList.map Json.byte⟩ [dated] :=
        Reply.shows_iff.mpr (by decide +kernel)
      refine .some (.inr ⟨rfl, _, _, shown, alone, .keep dated ?_⟩)
      apply Pruned.drop
      · decide +kernel
      · exact .nil
    | 1 => exact .some (.inl rfl)
    | n + 2 => exact .none

end Client

end PriceHistory
