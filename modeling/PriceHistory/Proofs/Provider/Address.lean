import Mathlib.Data.List.DropRight
import PriceHistory.Proofs.Calendar.DateText
import PriceHistory.Proofs.Calendar.Order
import PriceHistory.Proofs.Provider.Client
import PriceHistory.Proofs.Reconcile.Errand
import PriceHistory.Proofs.Web.Url

/-!
The addresses of requests. A symbol and a token stand in the path as they are given, so a request addresses
what it asks for where each of them can be one segment of a path: nothing in it parts the path, ends it or is
dropped, it is no dots, and no percent sign in it has two digits behind it. Between such requests the URL
tells the kind of request, the symbol in uppercase, the token and the day.
-/
namespace PriceHistory

open PriceHistory.Calendar PriceHistory.Web

/-- Can a text be one segment of an address, which then stands for it? -/
structure Web.AsSegment (text : String) : Prop where
  kept : Path.Kept text.toList
  literal : Literal text.toList

/-- The pairs in the query of a URL, if they can be read. -/
def Web.Url.pairs? (u : Url) : Option (List (String × String)) :=
  match u.query with
  | none => some []
  | some query => Form.decodePairs? query.toList

namespace ChartRequest

/-- The texts of a request in the order of their segments. -/
def segments : ChartRequest → List String
  | latest symbol => ["stock", Text.upper symbol, "chart"]
  | days symbol span => ["stock", Text.upper symbol, "chart", span.token]
  | onDay symbol span day | wholeDay symbol span day =>
    ["stock", Text.upper symbol, "chart", span.token, day.compact]

/-- The pairs of a request. -/
def pairs : ChartRequest → List (String × String)
  | wholeDay _ _ _ => [("chartByDay", "true")]
  | _ => []

/-- Can a request be addressed? Spaces are dropped at the end of an address, where a span has its token. -/
def Addressable : ChartRequest → Prop
  | latest symbol => AsSegment (Text.upper symbol)
  | days symbol span => AsSegment (Text.upper symbol) ∧ AsSegment span.token ∧
    ∀ c ∈ span.token.toList.getLast?, 0x20 < c.toNat
  | onDay symbol span day | wholeDay symbol span day =>
    AsSegment (Text.upper symbol) ∧ AsSegment span.token ∧ 0 ≤ day.year ∧ day.year ≤ 9999

/-- Is this the path of a request under some folders? Each text has a segment of its own. -/
def HasPath (folders parts : List String) : ChartRequest → Prop
  | latest symbol => ∃ own, parts = folders ++ ["stock", own, "chart"] ∧ StandsFor own (Text.upper symbol)
  | days symbol span => ∃ own token, parts = folders ++ ["stock", own, "chart", token] ∧
    StandsFor own (Text.upper symbol) ∧ StandsFor token span.token
  | onDay symbol span day | wholeDay symbol span day => ∃ own token,
    parts = folders ++ ["stock", own, "chart", token, day.compact] ∧
    StandsFor own (Text.upper symbol) ∧ StandsFor token span.token

/-- Do two requests ask for the same: of one kind, for one symbol whatever its case, by one token, and of one
day? -/
def Same : ChartRequest → ChartRequest → Prop
  | latest symbol, latest symbol' => Text.upper symbol = Text.upper symbol'
  | days symbol span, days symbol' span' =>
    Text.upper symbol = Text.upper symbol' ∧ span.token = span'.token
  | onDay symbol span day, onDay symbol' span' day' | wholeDay symbol span day, wholeDay symbol' span' day' =>
    Text.upper symbol = Text.upper symbol' ∧ span.token = span'.token ∧ day = day'
  | _, _ => False

variable {request : ChartRequest}

theorem chartAddress_eq (client : Client) (request : ChartRequest) :
    client.chartAddress request =
      ⟨client.base ++ String.join (request.segments.map ("/" ++ ·)), request.pairs⟩ := by
  cases request <;>
    simp [Client.chartAddress, Client.chartText, segments, pairs, ← String.toList_inj]

theorem asSegment_of_plain {text : String} (plain : Path.Kept text.toList ∧ '%' ∉ text.toList) :
    AsSegment text :=
  ⟨plain.1, literal_of_not_mem plain.2⟩

theorem asSegment_compact {day : Date} (written : 0 ≤ day.year ∧ day.year ≤ 9999) : AsSegment day.compact := by
  have digits : ∀ c ∈ day.compact.toList, c.isDigit = true := fun _ => Date.isDigit_of_mem_compact written
  exact asSegment_of_plain ⟨.of_digits digits, fun member => absurd (digits _ member) (by decide)⟩

/-- The texts of a request that can be addressed are all kept, and their segments stand for them. -/
theorem Addressable.asSegment (addressable : request.Addressable) :
    ∀ text ∈ request.segments, AsSegment text := by
  have stock : AsSegment "stock" := asSegment_of_plain (by decide +kernel)
  have chart : AsSegment "chart" := asSegment_of_plain (by decide +kernel)
  cases request with
  | latest symbol =>
    have own : AsSegment (Text.upper symbol) := addressable
    simp [segments, stock, chart, own]
  | days symbol span =>
    obtain ⟨own, token, _⟩ := addressable
    simp [segments, stock, chart, own, token]
  | onDay symbol span day | wholeDay symbol span day =>
    obtain ⟨own, token, written⟩ := addressable
    simp [segments, stock, chart, own, token, asSegment_compact written]

/-- Nothing is dropped at the end of its address. -/
theorem Addressable.exists_last (addressable : request.Addressable) :
    ∃ last, request.segments.getLast? = some last ∧ ∀ c ∈ last.toList.getLast?, 0x20 < c.toNat := by
  cases request with
  | latest symbol =>
    refine ⟨"chart", rfl, fun c final => ?_⟩
    obtain rfl : 't' = c := Option.some.inj final
    decide
  | days symbol span => exact ⟨span.token, rfl, addressable.2.2⟩
  | onDay symbol span day | wholeDay symbol span day =>
    refine ⟨day.compact, rfl, fun c final => ?_⟩
    have digit := Date.isDigit_of_mem_compact addressable.2.2 (List.mem_of_getLast? final)
    have := (Text.isDigit_iff.mp digit).1
    omega

/-- Texts that ask for the same are those of requests that do. -/
theorem segments_and_pairs_eq_iff {one other : ChartRequest} (addressable : one.Addressable)
    (addressable' : other.Addressable) :
    one.segments = other.segments ∧ one.pairs = other.pairs ↔ one.Same other := by
  cases one with
  | latest symbol => cases other <;> simp [segments, pairs, Same]
  | days symbol span => cases other <;> simp [segments, pairs, Same]
  | onDay symbol span day =>
    cases other with
    | onDay symbol' span' day' =>
      simp [segments, pairs, Same, Date.compact_inj addressable.2.2 addressable'.2.2]
    | _ => simp [segments, pairs, Same]
  | wholeDay symbol span day =>
    cases other with
    | wholeDay symbol' span' day' =>
      simp [segments, pairs, Same, Date.compact_inj addressable.2.2 addressable'.2.2]
    | _ => simp [segments, pairs, Same]

/-- The segments of a request are its path. -/
theorem Addressable.hasPath (addressable : request.Addressable) (folders : List String) :
    request.HasPath folders (folders ++ request.segments.map encodedSegment) := by
  have stands := addressable.asSegment
  have stock : encodedSegment "stock" = "stock" := by decide
  have chart : encodedSegment "chart" = "chart" := by decide
  have date {day : Date} (written : 0 ≤ day.year ∧ day.year ≤ 9999) : encodedSegment day.compact = day.compact :=
    encodedSegment_of_plain fun c member => pathSet_of_isDigit (Date.isDigit_of_mem_compact written member)
  cases request with
  | latest symbol =>
    refine ⟨encodedSegment (Text.upper symbol), by simp [segments, stock, chart], ?_⟩
    exact standsFor_encodedSegment (stands _ (by simp [segments])).literal
  | days symbol span =>
    refine ⟨encodedSegment (Text.upper symbol), encodedSegment span.token, by simp [segments, stock, chart],
      ?_, ?_⟩
    · exact standsFor_encodedSegment (stands _ (by simp [segments])).literal
    · exact standsFor_encodedSegment (stands _ (by simp [segments])).literal
  | onDay symbol span day | wholeDay symbol span day =>
    refine ⟨encodedSegment (Text.upper symbol), encodedSegment span.token,
      by simp [segments, stock, chart, date addressable.2.2], ?_, ?_⟩
    · exact standsFor_encodedSegment (stands _ (by simp [segments])).literal
    · exact standsFor_encodedSegment (stands _ (by simp [segments])).literal

end ChartRequest

namespace Client

variable {site : Site} {token : Option String} {request : ChartRequest}

/-- Of a base address only the slashes at its end are dropped. -/
theorem of_append {front : String} (closed : ∃ c, front.toList.getLast? = some c ∧ c ≠ '/') (back : String)
    (token : Option String) : Client.of (front ++ back) token =
      ⟨front ++ String.ofList (back.toList.rdropWhile (· == '/')), token⟩ := by
  obtain ⟨c, final, noSlash⟩ := closed
  obtain ⟨start, whole⟩ := List.getLast?_eq_some_iff.mp final
  have kept : front.toList.reverse.dropWhile (· == '/') = front.toList.reverse := by
    rw [whole, List.reverse_append, List.reverse_singleton, List.singleton_append,
      List.dropWhile_cons_of_neg (by simpa using noSlash)]
  have stripped : (front ++ back).toList.reverse.dropWhile (· == '/') =
      back.toList.reverse.dropWhile (· == '/') ++ front.toList.reverse := by
    rw [String.toList_append, List.reverse_append, List.dropWhile_append]
    split
    next nothing => rw [kept, List.isEmpty_iff.mp nothing, List.nil_append]
    next => rfl
  rw [Client.of, stripped, List.reverse_append, List.reverse_reverse, String.ofList_append, String.ofList_toList]
  rfl

theorem of_text (site : Site) (slashes : Nat) (token : Option String) :
    Client.of (site.text ++ String.ofList (List.replicate slashes '/')) token = ⟨site.text, token⟩ := by
  have none : (List.replicate slashes '/').rdropWhile (· == '/') = [] :=
    List.rdropWhile_eq_nil_iff.mpr fun c member => by simp [List.eq_of_mem_replicate member]
  rw [of_append site.exists_getLast?_text, String.toList_ofList, none, String.ofList_nil, String.append_empty]

/-- The pairs that come with a token. -/
def tokenPairs (token : Option String) : List (String × String) :=
  token.toList.map fun token => ("token", token)

/-- The URL that a request is addressed by. -/
def chartUrl (site : Site) (token : Option String) (request : ChartRequest) : Url :=
  site.url (request.segments.map encodedSegment)
    (request.pairs ++ tokenPairs token)

/-- It is sent if it is not too long. -/
theorem sentUrl?_of_addressable (addressable : request.Addressable) (slashes : Nat) :
    let client := Client.of (site.text ++ String.ofList (List.replicate slashes '/')) token
    let url := chartUrl site token request
    client.sentUrl? (client.chartAddress request) =
      if url.text.utf8ByteSize < 65535 then .ok url else .error (faultAt "builder error" url) := by
  intro client url
  obtain ⟨last, ends, visible⟩ := addressable.exists_last
  have base : client = ⟨site.text, token⟩ := of_text site slashes token
  have address : client.chartAddress request =
      ⟨site.text ++ String.join (request.segments.map ("/" ++ ·)), request.pairs⟩ := by
    rw [base, ChartRequest.chartAddress_eq]
  have read : Url.ofText? (client.chartAddress request).text =
      some (site.url (request.segments.map encodedSegment) []) := by
    rw [address]
    exact site.ofText?_under (fun text member => (addressable.asSegment text member).kept) ends visible
  have sent : (site.url (request.segments.map encodedSegment) []).withoutUser.withPairs
      ((client.chartAddress request).pairs ++ client.token.toList.map fun token => ("token", token)) = url := by
    rw [site.withoutUser_url, site.withPairs_url, address]
    rfl
  rw [sentUrl?_of_host read (by rw [site.host?_url]; rfl), sent]
  simp only [url, chartUrl, site.isSendable_url, decide_eq_true_eq]

theorem text_chartUrl_eq_iff {one other : ChartRequest} (addressable : one.Addressable)
    (addressable' : other.Addressable) :
    (chartUrl site token one).text = (chartUrl site token other).text ↔ one.Same other := by
  have whole {request : ChartRequest} (addressable : request.Addressable) :
      ∀ part ∈ request.segments.map encodedSegment, Path.Whole part := by
    intro part member
    obtain ⟨text, among, rfl⟩ := List.mem_map.mp member
    exact (addressable.asSegment text among).kept.whole_encoded
  -- What the segments stand for are the texts of the request.
  have decoded {request : ChartRequest} (addressable : request.Addressable) :
      (request.segments.map encodedSegment).map (fun part => utf8Text? (percentDecode part.toList)) =
        request.segments.map some := by
    rw [List.map_map, Function.comp_def]
    exact List.map_congr_left fun text member =>
      standsFor_encodedSegment (addressable.asSegment text member).literal
  rw [← ChartRequest.segments_and_pairs_eq_iff addressable addressable']
  refine (site.text_url_inj (whole addressable) (whole addressable')).trans ?_
  refine and_congr ⟨fun same => ?_, congrArg _⟩ ⟨List.append_cancel_right, congrArg (· ++ _)⟩
  have texts := decoded addressable
  rw [same, decoded addressable'] at texts
  exact (List.map_injective_iff.mpr (Option.some_injective _) texts).symm

/-- The records of a chart are filed under the symbol of its request. -/
theorem symbol_of_records {records : List Record} {address : Address} {url : Url} {reply : Option Reply}
    (brought : Except.map (List.filterMap (·.record? (chartSymbol request)))
      (received ChartPoint.ofJson? address url reply) = .ok records) :
    ∀ r ∈ records, r.key.symbol = .of (chartSymbol request) := by
  cases found : received ChartPoint.ofJson? address url reply with
  | error e =>
    rw [found] at brought
    cases brought
  | ok points =>
    rw [found] at brought
    cases brought
    intro r member
    obtain ⟨p, _, made⟩ := List.mem_filterMap.mp member
    exact (ChartPoint.filedAs_of_record? made).symbol

theorem pairs?_chartUrl (site : Site) (token : Option String) (request : ChartRequest) :
    (chartUrl site token request).pairs? = some (request.pairs ++ tokenPairs token) := by
  rw [chartUrl]
  generalize request.pairs ++ tokenPairs token = pairs
  unfold Url.pairs? Site.url
  by_cases none : pairs = []
  · simp [none]
  · simp [none, Form.decodePairs?_encodePairs]

/-- Requests to a service whose base address ends in any number of slashes. What a request asks for can be
addressed where its symbol in uppercase and its token can each be one segment. Then the URL has the scheme and
the authority of the service; its path is that of the service with the symbol and the token in segments that
stand for them, and the day in its compact form; its query has the pair of a day as a whole, and that of the
client's token; and it is sent if it is not too long. Of two requests that can be addressed, the URLs are
written alike exactly if both ask for the same. Whatever is sent, the records that are made of the reply are
filed under the symbol of the request. -/
theorem chart_addressed (site : Site) (slashes : Nat) (token : Option String) :
    let client := Client.of (site.text ++ String.ofList (List.replicate slashes '/')) token
    let sent (request : ChartRequest) := client.sentUrl? (client.chartAddress request)
    (∀ request : ChartRequest, request.Addressable → ∃ url : Url,
      (url.scheme = site.scheme ∧ url.authority = some site.authority ∧ url.fragment = none) ∧
      (∃ parts, url.path = .segments parts ∧ request.HasPath site.folders parts) ∧
      url.pairs? = some (request.pairs ++ tokenPairs token) ∧
      sent request = if url.text.utf8ByteSize < 65535 then .ok url else .error (faultAt "builder error" url)) ∧
    (∀ one other : ChartRequest, one.Addressable → other.Addressable →
      ∀ u v, sent one = .ok u → sent other = .ok v → (u.text = v.text ↔ one.Same other)) ∧
    ∀ (request : ChartRequest) (url : Url), sent request = .ok url →
      ∀ {m : Type → Type} [Monad m] [LawfulMonad m] (transport : Transport m),
        ∃ answer, (client.provider transport).chart request = answer <$> transport url ∧
          ∀ reply records, answer reply = .ok records →
            ∀ r ∈ records, r.key.symbol = .of (chartSymbol request) := by
  intro client sent
  refine ⟨fun request addressable => ?_, fun one other addressable addressable' u v sentOne sentOther => ?_,
    fun request url made m _ _ transport => ?_⟩
  · refine ⟨chartUrl site token request, ⟨rfl, rfl, rfl⟩, ⟨_, rfl, addressable.hasPath site.folders⟩,
      pairs?_chartUrl site token request, sentUrl?_of_addressable addressable slashes⟩
  · have urlOf {request : ChartRequest} (addressable : request.Addressable) {url : Url}
        (made : sent request = .ok url) : url = chartUrl site token request := by
      have rule : sent request = _ := sentUrl?_of_addressable addressable slashes
      rw [rule] at made
      split at made
      · exact (Except.ok.inj made).symm
      · cases made
    rw [urlOf addressable sentOne, urlOf addressable' sentOther]
    exact text_chartUrl_eq_iff addressable addressable'
  · refine ⟨fun reply => Except.map (List.filterMap (·.record? (chartSymbol request)))
      (received ChartPoint.ofJson? (client.chartAddress request) url reply), ?_,
      fun reply records brought => symbol_of_records brought⟩
    rw [provider]
    dsimp only
    rw [chart_eq, fetch_of_sent made, Functor.map_map]

/-- A service with a folder in its path. -/
private def stable : Site where
  scheme := "http"
  host := "iex.test"
  authority := .ofHost "iex.test"
  folders := ["stable"]
  web := by decide
  inner := Text.forall_mem_of_all (by decide +kernel)
  named := by decide +kernel
  anonymous := by decide
  reachable := ⟨by decide, Text.forall_mem_of_all (by decide +kernel)⟩
  kept := by
    intro folder member
    obtain rfl := List.mem_singleton.mp member
    exact ⟨by decide +kernel, Text.forall_mem_of_all (by decide +kernel)⟩
  closed := by decide +kernel

/-- The minutes of a day and the day as a whole, for a symbol and by a token with spaces in them. -/
theorem chart_addressed_stable :
    let client := Client.of "http://iex.test/stable/" (some "a b&c")
    let sent (request : ChartRequest) := client.sentUrl? (client.chartAddress request)
    let day : Date := .ofJune 25
    let minutes : ChartRequest := .onDay "brk b" (.other "last week") day
    let whole : ChartRequest := .wholeDay "Brk B" (.other "last week") day
    ∃ u v, sent minutes = .ok u ∧ sent whole = .ok v ∧ u.text ≠ v.text ∧
      v.text = "http://iex.test/stable/stock/BRK%20B/chart/last%20week/20210625?chartByDay=true&token=a+b%26c" ∧
      v.pairs? = some [("chartByDay", "true"), ("token", "a b&c")] := by
  intro client sent day minutes whole
  have base : client = Client.of (stable.text ++ String.ofList (List.replicate 1 '/')) (some "a b&c") :=
    congrArg (Client.of · (some "a b&c")) (by decide)
  obtain ⟨addressed, told, -⟩ := chart_addressed stable 1 (some "a b&c")
  rw [← base] at addressed told
  have symbol : AsSegment "BRK B" := ChartRequest.asSegment_of_plain (by decide +kernel)
  have token : AsSegment "last week" := ChartRequest.asSegment_of_plain (by decide +kernel)
  have ofMinutes : minutes.Addressable := ⟨symbol, token, by decide +kernel⟩
  have ofWhole : whole.Addressable := ⟨symbol, token, by decide +kernel⟩
  have first : sent minutes = .ok (chartUrl stable (some "a b&c") minutes) := by decide +kernel
  have second : sent whole = .ok (chartUrl stable (some "a b&c") whole) := by decide +kernel
  obtain ⟨url, -, -, pairs, rule⟩ := addressed whole ofWhole
  have made : chartUrl stable (some "a b&c") whole = url := by
    rw [show sent whole = _ from rule] at second
    split at second
    · exact (Except.ok.inj second).symm
    · cases second
  refine ⟨_, _, first, second, fun same => ?_, by decide +kernel, made ▸ pairs⟩
  exact (told minutes whole ofMinutes ofWhole _ _ first second).mp same

/-- A reply with one point of a day in June 2021, whatever is asked for. -/
private def onePoint : Transport Id := fun _ =>
  some ⟨200, "[\x7b\"date\":\"2021-06-25\",\"close\":1\x7d]".toList.map Json.byte⟩

/-- A token that climbs out of its place in the path makes the request that another symbol makes, and the
point that comes of it is filed under the symbol that was not asked for. -/
theorem chart_readdressed :
    let client := Client.of "http://iex.test" none
    let sent (request : ChartRequest) := client.sentUrl? (client.chartAddress request)
    let climbing : ChartRequest := .days "aapl" (.other "../../MSFT/chart/1m")
    let plain : ChartRequest := .days "msft" .oneMonth
    let url : Url := ⟨"http", some (.ofHost "iex.test"), .segments ["stock", "MSFT", "chart", "1m"], none, none⟩
    let answer : Except Failure (List Record) := (client.provider onePoint).chart climbing
    ¬climbing.Same plain ∧ sent climbing = .ok url ∧ sent plain = .ok url ∧
      answer.toOption.map (List.map (·.key.symbol)) = some [.of "aapl"] := by
  refine ⟨fun same => absurd same.1 (by decide), ?_, ?_, ?_⟩ <;> decide +kernel

end Client

end PriceHistory
