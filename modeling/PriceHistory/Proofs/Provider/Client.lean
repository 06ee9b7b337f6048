import Mathlib.Control.Basic
import PriceHistory.Proofs.Provider.Payload
import PriceHistory.Provider.Client

/-!
How the client fetches, in any effect: an address that makes no URL to send fails without a request, and
else one request is made, whose reply alone decides what comes of it.
-/
namespace PriceHistory

open PriceHistory.Web

/-- Is the body of a reply a list that shows these points? -/
def Web.Reply.Shows (reply : Reply) (points : List ChartPoint) : Prop :=
  ∃ items, reply.body.bind Json.ofBytes? = some (.list items) ∧ List.Forall₂ ChartPoint.ShownBy items points

theorem Web.Reply.shows_iff {reply : Reply} {points : List ChartPoint} : reply.Shows points ↔
    (reply.body.bind Json.ofBytes?).bind (Json.items? ChartPoint.ofJson?) = some points := by
  rw [Option.bind_eq_some_iff]
  simp only [Json.items?_eq_some_iff, ChartPoint.ofJson?_eq_some_iff]
  constructor
  · rintro ⟨items, found, shown⟩
    exact ⟨_, found, items, rfl, shown⟩
  · rintro ⟨_, found, items, rfl, shown⟩
    exact ⟨items, found, shown⟩

namespace Client

variable {client : Client} {address : Address} {url : Url} {α : Type} {read : Json → Option α}

/-- An address that makes no URL to send is a fault of the network. -/
theorem network_of_unsendable {fault : ProviderFault} (unsendable : client.sentUrl? address = .error fault) :
    ∃ text, fault = .network text := by
  unfold sentUrl? at unsendable
  -- The address is no URL, or what is to be sent cannot be sent, or there is no host to send it to.
  split at unsendable
  · cases unsendable
    exact ⟨_, rfl⟩
  · dsimp only at unsendable
    split at unsendable
    · split at unsendable
      · cases unsendable
      · cases unsendable
        exact ⟨_, rfl⟩
    · cases unsendable
      exact ⟨_, rfl⟩

theorem sentUrl?_of_host (found : Url.ofText? address.text = some url) (somewhere : url.host?.isSome = true) :
    client.sentUrl? address =
      let sent := url.withoutUser.withPairs (address.pairs ++ client.token.toList.map fun token => ("token", token))
      if sent.isSendable then .ok sent else .error (faultAt "builder error" sent) := by
  rw [sentUrl?, found]
  dsimp only
  rw [if_pos somewhere]

/-! ### Replies -/

theorem readReply_of_refused {reply : Reply} (refused : ¬(200 ≤ reply.status ∧ reply.status < 300)) :
    readReply read address reply =
      .error (.network ("IEX returned " ++ Status.text reply.status ++ " for " ++ address.text)) := by
  have failed : ¬Status.isSuccess reply.status = true := by
    simpa [Status.isSuccess] using refused
  rw [readReply, if_neg failed]

theorem readReply_of_unread {reply : Reply} (success : 200 ≤ reply.status ∧ reply.status < 300)
    (unread : (reply.body.bind Json.ofBytes?).bind (Json.items? read) = none) :
    readReply read address reply = .error (.parse "error decoding response body") := by
  have fine : Status.isSuccess reply.status = true := by
    simpa [Status.isSuccess] using success
  rw [readReply, if_pos fine, unread]

theorem readReply_of_read {reply : Reply} (success : 200 ≤ reply.status ∧ reply.status < 300)
    {items : List α} (found : (reply.body.bind Json.ofBytes?).bind (Json.items? read) = some items) :
    readReply read address reply = .ok items := by
  have fine : Status.isSuccess reply.status = true := by
    simpa [Status.isSuccess] using success
  rw [readReply, if_pos fine, found]

/-- What comes of a request that was sent to a URL, for what comes back. -/
def received (read : Json → Option α) (address : Address) (url : Url) :
    Option Reply → Except Failure (List α)
  | none => .error (.provider (faultAt "error sending request" url))
  | some reply => (readReply read address reply).mapError .provider

/-! ### Requests -/

variable {m : Type → Type} [Monad m] {transport : Transport m}

theorem fetch_of_unsendable {fault : ProviderFault}
    (unsendable : client.sentUrl? address = .error fault) :
    client.fetch transport read address = pure (.error (.provider fault)) := by
  rw [fetch, unsendable]

variable [LawfulMonad m]

theorem fetch_of_sent (sent : client.sentUrl? address = .ok url) :
    client.fetch transport read address = received read address url <$> transport url := by
  rw [fetch, sent, map_eq_pure_bind]
  apply bind_congr
  intro reply
  cases reply <;> rfl

/-- The answer to a request for a chart: the records of the points that can be read. -/
theorem chart_eq (request : ChartRequest) : client.chart transport request =
    Except.map (List.filterMap (·.record? (chartSymbol request))) <$>
      client.fetch transport ChartPoint.ofJson? (client.chartAddress request) := by
  rw [chart, map_eq_pure_bind]

end Client

end PriceHistory
