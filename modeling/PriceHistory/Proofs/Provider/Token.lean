import PriceHistory.Proofs.Provider.Client
import PriceHistory.Proofs.Web.Form

/-!
What of a client's token shows in its answers. The token is the last pair of the query, and the texts of
some faults quote the URL with its query. So two tokens show exactly where a request cannot be sent or
stays without a reply; what is made of a reply quotes the address alone.
-/
namespace PriceHistory

open PriceHistory.Web

/-! ### The token in the text of a URL -/

/-- The last pair is written at the end. -/
theorem Web.Form.exists_encodePairs (pairs : List (String × String)) :
    ∃ front, ∀ pair, Form.encodePairs (pairs ++ [pair]) = front ++ Form.encodePair pair := by
  induction pairs with
  | nil => exact ⟨[], fun pair => List.intercalate_singleton⟩
  | cons first pairs ih =>
    obtain ⟨front, written⟩ := ih
    refine ⟨Form.encodePair first ++ ['&'] ++ front, fun pair => ?_⟩
    have more : (pairs ++ [pair]).map Form.encodePair ≠ [] := by simp
    rw [Form.encodePairs, List.cons_append, List.map_cons, List.intercalate_cons_of_ne_nil more,
      List.append_assoc _ front, ← written]
    rfl

theorem Web.Url.text_withPairs_inj {u : Url} {pairs : List (String × String)} {name one other : String} :
    (u.withPairs (pairs ++ [(name, one)])).text = (u.withPairs (pairs ++ [(name, other)])).text ↔
      one = other := by
  refine ⟨fun same => ?_, fun same => by rw [same]⟩
  obtain ⟨front, written⟩ := Form.exists_encodePairs pairs
  let more (value : String) := String.ofList (Form.encodePairs (pairs ++ [(name, value)]))
  let old := if u.query.getD "" = "" then "" else u.query.getD "" ++ "&"
  -- All of them have a query, which is the same up to its last pair.
  have query (value : String) :
      u.withPairs (pairs ++ [(name, value)]) = { u with query := some (old ++ more value) } := by
    have some : more value ≠ "" := by
      intro empty
      have none := congrArg String.toList empty
      simp [more, written, Form.encodePair] at none
    have pair : pairs ++ [(name, value)] ≠ [] := by simp
    unfold withPairs
    by_cases fresh : u.query.getD "" = ""
    · simp [fresh, old, some, more]
    · simp [fresh, old, some, more]
  rw [query, query] at same
  change u.scheme ++ ":" ++ u.authorityText ++ u.pathText ++ ("?" ++ (old ++ more one)) ++ _ =
    u.scheme ++ ":" ++ u.authorityText ++ u.pathText ++ ("?" ++ (old ++ more other)) ++ _ at same
  have ends : more one = more other := by simpa using same
  have tails := congrArg String.toList ends
  simp only [more, written, String.toList_ofList, Form.encodePair, List.append_cancel_left_eq,
    List.cons.injEq, true_and] at tails
  exact Form.encode_inj.mp tails

namespace Client

/-! ### The token in a fault -/

theorem faultAt_inj {what : String} {u v : Url} : faultAt what u = faultAt what v ↔ u.text = v.text := by
  simp [faultAt]

/-- Faults that tell of different stages start with different letters. -/
theorem network_ne_of_head {first second : String} (apart : first.toList.head? ≠ second.toList.head?) :
    ProviderFault.network first ≠ .network second := by
  intro same
  exact apart (congrArg (fun text : String => text.toList.head?) (ProviderFault.network.inj same))

variable {α β : Type} {read : Json → Option α} {address : Address} {reply : Option Reply}

theorem received_ne_builder (f : List α → List β) (url other : Url) :
    Except.map f (received read address url reply) ≠ .error (.provider (faultAt "builder error" other)) := by
  intro same
  cases reply with
  | none =>
    have faults := Failure.provider.inj (Except.error.inj same)
    exact network_ne_of_head (by simp [String.toList_append]) faults
  | some reply =>
    unfold received readReply at same
    dsimp only at same
    split at same
    · -- A reply that tells of success gives points, or is a fault of its form.
      split at same <;> cases same
    · have faults := Failure.provider.inj (Except.error.inj same)
      exact network_ne_of_head (by simp [String.toList_append]) faults

/-- What comes of a URL that is sent if it can be. -/
def sending (read : Json → Option α) (address : Address) (reply : Option Reply) (url : Url) :
    Except Failure (List α) :=
  if url.isSendable then received read address url reply
  else .error (.provider (faultAt "builder error" url))

/-- The same comes of two URLs only if they are written alike or are both replied to. -/
theorem text_eq_or_replied (f : List α → List β) {url other : Url}
    (same : Except.map f (sending read address reply url) = Except.map f (sending read address reply other)) :
    url.text = other.text ∨
      reply.isSome = true ∧ url.isSendable = true ∧ other.isSendable = true := by
  unfold sending at same
  by_cases first : url.isSendable = true
  · by_cases second : other.isSendable = true
    · rw [if_pos first, if_pos second] at same
      cases reply with
      | none => exact .inl (faultAt_inj.mp (Failure.provider.inj (Except.error.inj same)))
      | some reply => exact .inr ⟨rfl, first, second⟩
    · rw [if_pos first, if_neg second] at same
      exact absurd same (received_ne_builder f url other)
  · by_cases second : other.isSendable = true
    · rw [if_neg first, if_pos second] at same
      exact absurd same.symm (received_ne_builder f other url)
    · rw [if_neg first, if_neg second] at same
      exact .inl (faultAt_inj.mp (Failure.provider.inj (Except.error.inj same)))

/-! ### Two tokens -/

variable {base : String} {token : Option String} {url : Url}

/-- The URL of an address with a token. -/
def tokenUrl (address : Address) (url : Url) (token : String) : Url :=
  url.withoutUser.withPairs (address.pairs ++ [("token", token)])

theorem sentUrl?_of_unread (unread : Url.ofText? address.text = none) :
    (Client.of base token).sentUrl? address = .error (.network "builder error") := by
  rw [sentUrl?, unread]

theorem sentUrl?_of_no_host (found : Url.ofText? address.text = some url)
    (nowhere : url.host?.isSome = false) :
    (Client.of base token).sentUrl? address = .error (faultAt "builder error" url) := by
  rw [sentUrl?, found]
  dsimp only
  rw [if_neg (by simp [nowhere])]

theorem sentUrl?_of_token (found : Url.ofText? address.text = some url) (somewhere : url.host?.isSome = true)
    (token : String) : (Client.of base (some token)).sentUrl? address =
      if (tokenUrl address url token).isSendable then .ok (tokenUrl address url token)
      else .error (faultAt "builder error" (tokenUrl address url token)) :=
  sentUrl?_of_host found somewhere

/-- What comes of a fetch where the same comes back whatever is sent. -/
def outcome (client : Client) (read : Json → Option α) (reply : Option Reply) (address : Address) :
    Except Failure (List α) :=
  match client.sentUrl? address with
  | .error fault => .error (.provider fault)
  | .ok url => received read address url reply

theorem fetch_constant (client : Client) (read : Json → Option α) (reply : Option Reply)
    (address : Address) :
    client.fetch (m := Id) (fun _ => reply) read address = client.outcome read reply address := by
  unfold outcome
  cases made : client.sentUrl? address with
  | error fault => exact fetch_of_unsendable made
  | ok url => exact fetch_of_sent made

/-- Does the address of a call keep two tokens from its answer? They are one token, or the address has no
host to send it to, or a reply comes to what is sent with each of them. -/
def Hides (base : String) (reply : Option Reply) (one other : String) (address : Address) : Prop :=
  one = other ∨ (∀ url, Url.ofText? address.text = some url → url.host?.isSome = false) ∨
    reply.isSome = true ∧ ∀ token ∈ [one, other], ((Client.of base (some token)).sentUrl? address).isOk = true

theorem outcome_of_host (found : Url.ofText? address.text = some url) (somewhere : url.host?.isSome = true)
    (token : String) : (Client.of base (some token)).outcome read reply address =
      sending read address reply (tokenUrl address url token) := by
  rw [outcome, sentUrl?_of_token found somewhere, sending]
  by_cases sendable : (tokenUrl address url token).isSendable = true
  · rw [if_pos sendable, if_pos sendable]
  · rw [if_neg sendable, if_neg sendable]

theorem map_outcome_eq_iff (f : List α → List β) (one other : String) :
    Except.map f ((Client.of base (some one)).outcome read reply address) =
        Except.map f ((Client.of base (some other)).outcome read reply address) ↔
      Hides base reply one other address := by
  cases found : Url.ofText? address.text with
  | none =>
    rw [outcome, outcome, sentUrl?_of_unread found, sentUrl?_of_unread found]
    exact iff_of_true rfl (.inr (.inl (by simp [found])))
  | some url =>
    cases somewhere : url.host?.isSome with
    | false =>
      rw [outcome, outcome, sentUrl?_of_no_host found somewhere, sentUrl?_of_no_host found somewhere]
      refine iff_of_true rfl (.inr (.inl fun other parsed => ?_))
      cases found.symm.trans parsed
      exact somewhere
    | true =>
      -- Only here is the token part of what is sent.
      have sendable (token : String) : ((Client.of base (some token)).sentUrl? address).isOk = true ↔
          (tokenUrl address url token).isSendable = true := by
        rw [sentUrl?_of_token found somewhere]
        split <;> simp_all [Except.isOk, Except.toBool]
      rw [outcome_of_host found somewhere, outcome_of_host found somewhere]
      constructor
      · intro same
        rcases text_eq_or_replied f same with texts | ⟨replied, first, second⟩
        · exact .inl (Url.text_withPairs_inj.mp texts)
        · refine .inr (.inr ⟨replied, ?_⟩)
          simp only [List.forall_mem_cons, sendable]
          exact ⟨first, second, by simp⟩
      · rintro (rfl | nowhere | ⟨replied, sent⟩)
        · rfl
        · rw [nowhere url found] at somewhere
          cases somewhere
        · simp only [List.forall_mem_cons, sendable] at sent
          obtain ⟨reply, rfl⟩ := Option.isSome_iff_exists.mp replied
          rw [sending, sending, if_pos sent.1, if_pos sent.2.1]
          rfl

theorem outcome_eq_iff (one other : String) :
    (Client.of base (some one)).outcome read reply address =
        (Client.of base (some other)).outcome read reply address ↔ Hides base reply one other address := by
  have same (x : Except Failure (List α)) : Except.map id x = x := by cases x <;> rfl
  rw [← map_outcome_eq_iff (id : List α → List α), same, same]

/-! The token is not part of an address, only of what is sent for it. -/

theorem chart_constant (request : ChartRequest) :
    ((Client.of base token).provider (m := Id) fun _ => reply).chart request =
      Except.map (List.filterMap (·.record? (chartSymbol request)))
        ((Client.of base token).outcome ChartPoint.ofJson? reply
          ((Client.of base none).chartAddress request)) := by
  have run {α β : Type} (f : α → β) (x : Id α) : f <$> x = f x := rfl
  have address : (Client.of base token).chartAddress request = (Client.of base none).chartAddress request := by
    cases request <;> rfl
  change (Client.of base token).chart (m := Id) (fun _ => reply) request = _
  rw [chart_eq, fetch_constant, address]
  exact run _ _

theorem listings_constant : ((Client.of base token).provider (m := Id) fun _ => reply).listings =
    (Client.of base token).outcome Listing.ofJson? reply (Client.of base none).listingsAddress := by
  have address : (Client.of base token).listingsAddress = (Client.of base none).listingsAddress := rfl
  rw [← address, ← fetch_constant, provider]

theorem lastTrades_constant (symbols : List String) :
    ((Client.of base token).provider (m := Id) fun _ => reply).lastTrades symbols =
      (Client.of base token).outcome LastTrade.ofJson? reply
        ((Client.of base none).lastTradesAddress symbols) := by
  have address : (Client.of base token).lastTradesAddress symbols =
    (Client.of base none).lastTradesAddress symbols := rfl
  rw [← address, ← fetch_constant, provider]

/-- Two clients of one service, with a token each, and a peer that does the same whatever is sent to it.
A call gives both the same answer exactly if its address keeps the tokens from it: always where a reply
comes to what both send, whatever it is, and never where they send two different tokens and none
comes. -/
theorem token_shows_iff (base one other : String) (reply : Option Reply) :
    let client := Client.of base none
    let first := (Client.of base (some one)).provider (m := Id) fun _ => reply
    let second := (Client.of base (some other)).provider (m := Id) fun _ => reply
    (∀ request, first.chart request = second.chart request ↔
      Hides base reply one other (client.chartAddress request)) ∧
    (first.listings = second.listings ↔ Hides base reply one other client.listingsAddress) ∧
    ∀ symbols, first.lastTrades symbols = second.lastTrades symbols ↔
      Hides base reply one other (client.lastTradesAddress symbols) := by
  intro client first second
  refine ⟨fun request => ?_, ?_, fun symbols => ?_⟩
  · exact (Eq.congr (chart_constant request) (chart_constant request)).trans
      (map_outcome_eq_iff _ one other)
  · exact (Eq.congr listings_constant listings_constant).trans (outcome_eq_iff one other)
  · exact (Eq.congr (lastTrades_constant symbols) (lastTrades_constant symbols)).trans
      (outcome_eq_iff one other)

/-- A connection that is closed without a reply shows each of two tokens in its fault. -/
theorem token_in_fault_of_dropped :
    let dropped : Transport Id := fun _ => none
    let request : ChartRequest := .days "aapl" .oneMonth
    let answer (token : String) : Except Failure (List Record) :=
      ((Client.of "http://iex.test" (some token)).provider dropped).chart request
    answer "pk_one" = .error (.provider (.network
        "error sending request for url (http://iex.test/stock/AAPL/chart/1m?token=pk_one)")) ∧
      answer "pk_one" ≠ answer "pk_two" := by
  decide +kernel

end Client

end PriceHistory
