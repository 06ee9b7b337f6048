import PriceHistory.Proofs.Provider.Address
import PriceHistory.Proofs.Text.Trim
import PriceHistory.Query

/-!
Last trades on the wire. The symbols that are asked for are one value of the query, joined by commas. Form
encoding leaves nothing in it that could part the query, so where no symbol has a comma, the value tells the
symbols. Nothing is sent for blank symbols alone, and nothing to a URL that is too long.
-/
namespace PriceHistory

open PriceHistory.Web

/-! ### The symbols -/

namespace Exchange

theorem askedSymbols_eq (symbols : List String) :
    askedSymbols symbols = (symbols.filter fun symbol => ¬Text.Blank symbol).map Text.trim := by
  rw [askedSymbols, List.filter_map]
  congr 1
  apply List.filter_congr
  intro symbol _
  simp [Text.trim_eq_empty_iff]

theorem askedSymbols_eq_nil_iff {symbols : List String} :
    askedSymbols symbols = [] ↔ ∀ symbol ∈ symbols, Text.Blank symbol := by
  rw [askedSymbols_eq, List.map_eq_nil_iff, List.filter_eq_nil_iff]
  simp

end Exchange

/-- Neither trimming nor uppercase brings a comma in. -/
theorem not_mem_upper_trim {symbol : String} (plain : ',' ∉ symbol.toList) :
    ',' ∉ (Text.upper (Text.trim symbol)).toList := by
  intro member
  have inside := Text.mem_of_mem_upper (by decide) member
  obtain ⟨front, back, parts, -, -⟩ := Text.exists_trim symbol
  rw [parts] at plain
  exact plain (List.mem_append_left back (List.mem_append_right front inside))

/-- Texts that are joined by commas and have none themselves are parted again. -/
theorem splitOn_joined {texts : List String} (plain : ∀ text ∈ texts, ',' ∉ text.toList) (some : texts ≠ []) :
    ((",".intercalate texts).toList.splitOn ',').map String.ofList = texts := by
  have whole : ∀ chars ∈ texts.map String.toList, ',' ∉ chars := by
    intro chars member
    obtain ⟨text, among, rfl⟩ := List.mem_map.mp member
    exact plain text among
  have parted := List.splitOn_intercalate ',' whole (by simpa using some)
  have chars : (",".intercalate texts).toList = [','].intercalate (texts.map String.toList) :=
    String.toList_intercalate
  rw [chars, parted, List.map_map]
  simp

/-! ### The URL -/

namespace Client

variable {origin : Origin} {path : String} {token : Option String} {symbols : List String}

/-- The address of last trades is read as a URL at the host, without a query. -/
theorem exists_ofText?_lastTrades (rooted : path = "" ∨ path.toList.head? = some '/')
    (plain : ∀ c ∈ path.toList, c ≠ '?' ∧ c ≠ '#') (token : Option String) (symbols : List String) :
    let client := Client.of (origin.text ++ path) token
    ∃ url : Url, Url.ofText? (client.lastTradesAddress symbols).text = some url ∧
      url.scheme = origin.scheme ∧ url.authority = some origin.authority ∧ url.query = none := by
  let kept := String.ofList (path.toList.rdropWhile (· == '/'))
  have front : kept.toList <+: path.toList := by
    rw [String.toList_ofList]
    exact List.rdropWhile_prefix _ _
  have starts : ∃ behind, (kept ++ "/tops/last").toList = '/' :: behind := by
    rw [String.toList_append]
    cases chars : kept.toList with
    | nil => exact ⟨_, rfl⟩
    | cons c cs =>
      obtain ⟨rest, whole⟩ := front
      rw [chars] at whole
      have first : path.toList.head? = some c := by rw [← whole]; rfl
      have slash := rooted.resolve_left fun nothing => by simp [nothing] at first
      obtain rfl : c = '/' := Option.some.inj (first.symm.trans slash)
      exact ⟨_, rfl⟩
  have inside : ∀ c ∈ (kept ++ "/tops/last").toList, c ≠ '?' ∧ c ≠ '#' := by
    rw [String.toList_append]
    exact List.forall_mem_append.mpr ⟨fun c member => plain c (front.subset member),
      Text.forall_mem_of_all (by decide)⟩
  have visible : ∀ c ∈ (kept ++ "/tops/last").toList.getLast?, 0x20 < c.toNat := by
    intro c last
    rw [String.toList_append, List.getLast?_append_of_ne_nil _ (by decide)] at last
    obtain rfl : 't' = c := Option.some.inj last
    decide
  have read := origin.ofText?_rooted starts inside visible
  rw [← String.append_assoc] at read
  rw [of_append origin.exists_getLast?_text]
  exact ⟨_, read, rfl, rfl, rfl⟩

/-- What is asked for is the first pair of the query, and the token is the other. It is sent if the URL is not
too long. -/
theorem exists_sentUrl?_lastTrades (rooted : path = "" ∨ path.toList.head? = some '/')
    (plain : ∀ c ∈ path.toList, c ≠ '?' ∧ c ≠ '#') (token : Option String) (symbols : List String) :
    let client := Client.of (origin.text ++ path) token
    ∃ url : Url, url.scheme = origin.scheme ∧ url.host? = some origin.authority.host ∧
      url.query = some (String.ofList (Form.encodePairs
        (("symbols", ",".intercalate (symbols.map Text.upper)) :: tokenPairs token))) ∧
      client.sentUrl? (client.lastTradesAddress symbols) =
        if url.text.utf8ByteSize < 65535 then .ok url else .error (faultAt "builder error" url) := by
  intro client
  obtain ⟨found, read, scheme, authority, noQuery⟩ := exists_ofText?_lastTrades rooted plain token symbols
  let pairs := ("symbols", ",".intercalate (symbols.map Text.upper)) :: tokenPairs token
  -- A user that the host may name is taken out, and the host is kept.
  have host : found.host? = some origin.authority.host := origin.host?_of_authority authority
  have sentHost : (found.withoutUser.withPairs pairs).host? = some origin.authority.host :=
    found.host?_withoutUser.trans host
  have sendable := origin.isSendable_of_host? (u := found.withoutUser.withPairs pairs) scheme sentHost
  refine ⟨found.withoutUser.withPairs pairs, scheme, sentHost,
    Url.query_withPairs noQuery (List.cons_ne_nil _ _), ?_⟩
  have sent : found.withoutUser.withPairs ((client.lastTradesAddress symbols).pairs ++
      client.token.toList.map fun token => ("token", token)) = found.withoutUser.withPairs pairs := rfl
  rw [sentUrl?_of_host read (by rw [host]; rfl), sent]
  simp only [sendable, decide_eq_true_eq]

end Client

/-! ### Long URLs -/

theorem Text.length_le_utf8ByteSize (s : String) : s.toList.length ≤ s.utf8ByteSize := by
  have bytes : (s.toList.flatMap String.utf8EncodeChar).length = s.utf8ByteSize := by
    rw [← String.size_toByteArray, ← String.utf8Encode_toList, List.utf8Encode, List.size_toByteArray]
  rw [← bytes]
  exact length_le_flatMap utf8EncodeChar_ne_nil s.toList

theorem Web.Form.encodeChar_ne_nil (c : Char) : encodeChar c ≠ [] := by
  obtain ⟨digits, sign⟩ := exists_percentChar_eq_cons c
  unfold encodeChar
  split
  · exact List.cons_ne_nil _ _
  · split
    · exact List.cons_ne_nil _ _
    · rw [sign]
      exact List.cons_ne_nil _ _

/-- The first value of a query is not longer than the query. -/
theorem Web.Form.length_le_encodePairs (name value : String) (pairs : List (String × String)) :
    value.toList.length ≤ (encodePairs ((name, value) :: pairs)).length := by
  have encoded : value.toList.length ≤ (encode value).length :=
    Text.length_le_flatMap encodeChar_ne_nil value.toList
  have first : (encodePair (name, value)).length ≤ (encodePairs ((name, value) :: pairs)).length := by
    rw [encodePairs, List.map_cons]
    cases pairs with
    | nil => rw [List.map_nil, List.intercalate_singleton]
    | cons pair pairs =>
      rw [List.intercalate_cons_of_ne_nil (by simp), List.length_append, List.length_append]
      omega
  simp only [encodePair, List.length_append, List.length_cons] at first
  omega

theorem Web.Url.length_le_of_query {u : Url} {query : String} (found : u.query = some query) :
    query.toList.length ≤ u.text.utf8ByteSize := by
  have bytes := Text.length_le_utf8ByteSize query
  simp only [text, found, String.utf8ByteSize_append]
  omega

/-- Symbols that are together too long for a URL are not sent. -/
theorem Client.exists_unsent_of_long {origin : Origin} {path : String}
    (rooted : path = "" ∨ path.toList.head? = some '/') (plain : ∀ c ∈ path.toList, c ≠ '?' ∧ c ≠ '#')
    (token : Option String) {symbols : List String}
    (long : 65535 ≤ (",".intercalate (symbols.map Text.upper)).toList.length) :
    let client := Client.of (origin.text ++ path) token
    ∃ url, client.sentUrl? (client.lastTradesAddress symbols) = .error (faultAt "builder error" url) := by
  intro client
  obtain ⟨url, -, -, query, sent⟩ := exists_sentUrl?_lastTrades rooted plain token symbols
  have whole := Web.Url.length_le_of_query query
  rw [String.toList_ofList] at whole
  have value := Form.length_le_encodePairs "symbols" (",".intercalate (symbols.map Text.upper)) (tokenPairs token)
  rw [if_neg (by omega)] at sent
  exact ⟨url, sent⟩

/-! ### Queries -/

/-- A transport that notes what is sent by it. -/
def Transport.noted {τ : Type} (transport : Transport (StateM τ)) : Transport (StateM (τ × List Url)) :=
  fun url (t, sent) =>
    let (reply, t) := transport url t
    (reply, t, sent ++ [url])

namespace Exchange

variable {σ τ : Type} {store : Store σ} {client : Client} {transport : Transport (StateM τ)} {s : σ}
  {symbols : List String} {before : τ} {earlier : List Url}

theorem run_lastTrades_of_blank (blank : ∀ symbol ∈ symbols, Text.Blank symbol) :
    (Exchange.mk store (client.provider transport.noted)).lastTrades s symbols (before, earlier) =
      (.quiet (.ok []) s, before, earlier) := by
  rw [lastTrades, askedSymbols_eq_nil_iff.mpr blank]
  rfl

theorem run_lastTrades_of_asked (some : askedSymbols symbols ≠ []) :
    (Exchange.mk store (client.provider transport.noted)).lastTrades s symbols (before, earlier) =
      let (answer, now) := client.fetch transport.noted LastTrade.ofJson?
        (client.lastTradesAddress (askedSymbols symbols)) (before, earlier)
      (⟨answer, s, [.lastTrades (askedSymbols symbols)]⟩, now) := by
  obtain ⟨first, others, asked⟩ := List.exists_cons_of_ne_nil some
  rw [lastTrades, asked]
  rfl

theorem run_lastTrades_of_sent (some : askedSymbols symbols ≠ []) {url : Url}
    (sent : client.sentUrl? (client.lastTradesAddress (askedSymbols symbols)) = .ok url) :
    (Exchange.mk store (client.provider transport.noted)).lastTrades s symbols (before, earlier) =
      (⟨Client.received LastTrade.ofJson? (client.lastTradesAddress (askedSymbols symbols)) url
        (transport url before).1, s, [.lastTrades (askedSymbols symbols)]⟩,
        (transport url before).2, earlier ++ [url]) := by
  rw [run_lastTrades_of_asked some, Client.fetch_of_sent sent]
  rfl

theorem run_lastTrades_of_unsent (some : askedSymbols symbols ≠ []) {fault : ProviderFault}
    (unsent : client.sentUrl? (client.lastTradesAddress (askedSymbols symbols)) = .error fault) :
    (Exchange.mk store (client.provider transport.noted)).lastTrades s symbols (before, earlier) =
      (⟨.error (.provider fault), s, [.lastTrades (askedSymbols symbols)]⟩, before, earlier) := by
  rw [run_lastTrades_of_asked some, Client.fetch_of_unsendable unsent]
  rfl

/-- What is addressed to a URL is sent to it alone, or to none. -/
theorem run_lastTrades_of_addressed (some : askedSymbols symbols ≠ []) {url : Url}
    (addressed : client.sentUrl? (client.lastTradesAddress (askedSymbols symbols)) =
      if url.text.utf8ByteSize < 65535 then .ok url else .error (Client.faultAt "builder error" url)) :
    let call := (Exchange.mk store (client.provider transport.noted)).lastTrades s symbols (before, [])
    if url.text.utf8ByteSize < 65535 then call.2 = ((transport url before).2, [url])
    else call.2 = (before, []) ∧ call.1.result = .error (.provider (Client.faultAt "builder error" url)) := by
  intro call
  split
  next short =>
    rw [if_pos short] at addressed
    exact congrArg Prod.snd (run_lastTrades_of_sent some addressed)
  next long =>
    rw [if_neg long] at addressed
    have ran : call = _ := run_lastTrades_of_unsent some addressed
    rw [ran]
    exact ⟨rfl, rfl⟩

/-- The URL for some symbols without commas lists those that are not blank. -/
theorem exists_url_listing {origin : Origin} {path : String} (rooted : path = "" ∨ path.toList.head? = some '/')
    (plain : ∀ c ∈ path.toList, c ≠ '?' ∧ c ≠ '#') (token : Option String)
    (whole : ∀ symbol ∈ symbols, ',' ∉ symbol.toList) (asked : askedSymbols symbols ≠ []) :
    let client := Client.of (origin.text ++ path) token
    ∃ url list, (url.scheme = origin.scheme ∧ url.host? = some origin.authority.host ∧
      url.pairs? = some (("symbols", list) :: Client.tokenPairs token)) ∧
      (list.toList.splitOn ',').map String.ofList =
        ((symbols.filter fun symbol => ¬Text.Blank symbol).map fun symbol => Text.upper (Text.trim symbol)) ∧
      client.sentUrl? (client.lastTradesAddress (askedSymbols symbols)) =
        if url.text.utf8ByteSize < 65535 then .ok url else .error (Client.faultAt "builder error" url) := by
  intro client
  obtain ⟨url, scheme, host, query, sent⟩ :=
    Client.exists_sentUrl?_lastTrades rooted plain token (askedSymbols symbols)
  have texts : (askedSymbols symbols).map Text.upper =
      (symbols.filter fun symbol => ¬Text.Blank symbol).map fun symbol => Text.upper (Text.trim symbol) := by
    rw [askedSymbols_eq, List.map_map]
    rfl
  refine ⟨url, ",".intercalate ((askedSymbols symbols).map Text.upper), ⟨scheme, host, ?_⟩, ?_, sent⟩
  · rw [Url.pairs?, query]
    dsimp only
    rw [String.toList_ofList, Form.decodePairs?_encodePairs]
  · rw [texts]
    apply splitOn_joined
    · intro text member
      obtain ⟨symbol, among, rfl⟩ := List.mem_map.mp member
      exact not_mem_upper_trim (whole symbol (List.mem_filter.mp among).1)
    · rw [← texts]
      simpa using asked

/-- A query for the last trades of some symbols, where no symbol has a comma, by a client of a service at a
host and a path of a web scheme. It is empty without a request exactly if all symbols are blank. Else there is
a URL at the host, whose query has a list of symbols, then the token where there is one, and nothing else. The
list, parted at its commas, is the symbols that are not blank, in their order and as often as they are given,
trimmed and in uppercase. If the URL has fewer than 65535 bytes, the only request goes to it; else there is no
request, and the query fails. -/
theorem lastTrades_on_wire (origin : Origin) {path : String} (rooted : path = "" ∨ path.toList.head? = some '/')
    (plain : ∀ c ∈ path.toList, c ≠ '?' ∧ c ≠ '#') (token : Option String) (store : Store σ)
    (transport : Transport (StateM τ)) (s : σ) (before : τ) {symbols : List String}
    (whole : ∀ symbol ∈ symbols, ',' ∉ symbol.toList) :
    let client := Client.of (origin.text ++ path) token
    let exchange : Exchange σ (StateM (τ × List Url)) := ⟨store, client.provider transport.noted⟩
    let call := exchange.lastTrades s symbols (before, [])
    let blank := ∀ symbol ∈ symbols, Text.Blank symbol
    (call.2.2 = [] ∧ call.1.result = .ok [] ↔ blank) ∧
    (¬blank → ∃ url list, url.scheme = origin.scheme ∧ url.host? = some origin.authority.host ∧
      url.pairs? = some (("symbols", list) :: Client.tokenPairs token) ∧
      (list.toList.splitOn ',').map String.ofList =
        ((symbols.filter fun symbol => ¬Text.Blank symbol).map fun symbol => Text.upper (Text.trim symbol)) ∧
      if url.text.utf8ByteSize < 65535 then call.2 = ((transport url before).2, [url])
      else call.2 = (before, []) ∧
        call.1.result = .error (.provider (Client.faultAt "builder error" url))) := by
  intro client exchange call blank
  refine ⟨⟨fun ⟨unsent, empty⟩ => ?_, fun none => ?_⟩, fun asked => ?_⟩
  · -- With a symbol to ask for, something is sent or the query fails.
    by_contra asked
    have some := asked ∘ askedSymbols_eq_nil_iff.mp
    obtain ⟨url, _, _, _, addressed⟩ := exists_url_listing rooted plain token whole some
    have ran : if url.text.utf8ByteSize < 65535 then call.2 = _ else call.2 = _ ∧ call.1.result = _ :=
      run_lastTrades_of_addressed some addressed
    split at ran
    · rw [ran] at unsent
      cases unsent
    · rw [ran.2] at empty
      cases empty
  · have ran : call = _ := run_lastTrades_of_blank none
    rw [ran]
    exact ⟨rfl, rfl⟩
  · have some := asked ∘ askedSymbols_eq_nil_iff.mp
    obtain ⟨url, list, ⟨scheme, host, pairs⟩, listed, addressed⟩ :=
      exists_url_listing rooted plain token whole some
    exact ⟨url, list, scheme, host, pairs, listed, run_lastTrades_of_addressed some addressed⟩

private theorem exists_testHost : ∃ origin : Origin, origin.text = "http://iex.test" :=
  ⟨{  scheme := "http"
      host := "iex.test"
      authority := .ofHost "iex.test"
      web := .inl rfl
      inner := Text.forall_mem_of_all (by decide +kernel)
      named := by decide +kernel
      reachable := ⟨by decide, Text.forall_mem_of_all (by decide +kernel)⟩ }, by decide⟩

/-- A transport that replies with an empty list, and counts. -/
private def emptyReplies : Transport (StateM Nat) :=
  fun _ asked => (some ⟨200, "[]".toList.map Json.byte⟩, asked + 1)

/-- An exchange with a client of such a transport. -/
private def replied (client : Client) : Exchange Unit (StateM (Nat × List Url)) :=
  ⟨⟨fun _ _ => .ok false, fun _ _ => .ok none, fun _ _ => (.ok (), ())⟩, client.provider emptyReplies.noted⟩

/-- Symbols with marks that part queries and URLs, one of them twice, and a blank among them. -/
theorem lastTrades_on_wire_marks :
    let client := Client.of "http://iex.test/stable/" (some "p&k")
    let call := (replied client).lastTrades () [" a&b=1", "\t ", "50%+#?", "a&b=1 ", "stra\u00dfe"] (0, [])
    ∃ url list, call.2 = (1, [url]) ∧ url.pairs? = some [("symbols", list), ("token", "p&k")] ∧
      (list.toList.splitOn ',').map String.ofList = ["A&B=1", "50%+#?", "A&B=1", "STRASSE"] := by
  intro client call
  have whole : ∀ symbol ∈ [" a&b=1", "\t ", "50%+#?", "a&b=1 ", "stra\u00dfe"], ',' ∉ symbol.toList := by
    decide +kernel
  obtain ⟨host, written⟩ := exists_testHost
  obtain ⟨-, told⟩ := lastTrades_on_wire host (show "/stable/" = "" ∨ _ from .inr rfl)
    (Text.forall_mem_of_all (by decide +kernel)) (some "p&k") (replied client).store emptyReplies () 0 whole
  have base : host.text ++ "/stable/" = "http://iex.test/stable/" := by
    rw [written]
    decide
  rw [base] at told
  obtain ⟨url, list, -, -, pairs, listed, ran⟩ := told (by decide +kernel)
  refine ⟨url, list, ?_, pairs, listed.trans (by decide +kernel)⟩
  split at ran
  · exact ran
  · -- Something was sent, so the URL is not too long.
    have sent : call.2 ≠ (0, []) := by decide +kernel
    exact absurd ran.1 sent

/-- A symbol that makes the URL too long: nothing is sent, and the query fails. -/
theorem lastTrades_too_long_unsent :
    let symbol := String.ofList (List.replicate 65535 'a')
    let call := (replied (.of "http://iex.test" none)).lastTrades () [symbol] (0, [])
    ',' ∉ symbol.toList ∧ ¬Text.Blank symbol ∧ call.2 = (0, []) ∧ ∃ e, call.1.result = .error e := by
  intro symbol call
  have chars : symbol.toList = List.replicate 65535 'a' := String.toList_ofList
  -- From here on only the length counts, and nothing may go through the letters.
  clear_value symbol
  generalize size : 65535 = n at chars
  have only : ∀ c ∈ symbol.toList, c = 'a' := fun c member => List.eq_of_mem_replicate (chars ▸ member)
  have visible : ∀ c ∈ symbol.toList, Text.isBlank c = false := fun c member => only c member ▸ by decide
  have first : 'a' ∈ symbol.toList := chars ▸ List.mem_replicate.mpr ⟨by omega, rfl⟩
  have notBlank : ¬Text.Blank symbol := fun blank => by cases (visible 'a' first).symm.trans (blank 'a' first)
  have trimmed : Text.trim symbol = symbol := by
    apply Text.trim_of_visible
    · rintro rfl
      cases first
    · exact fun c head => visible c (List.mem_of_head? head)
    · exact fun c last => visible c (List.mem_of_getLast? last)
  have asked : askedSymbols [symbol] = [symbol] := by
    rw [askedSymbols_eq, List.filter_singleton]
    simp [notBlank, trimmed]
  have long : 65535 ≤ (",".intercalate ([symbol].map Text.upper)).toList.length := by
    have upper := Text.length_le_upper symbol.toList
    rw [chars, List.length_replicate] at upper
    rw [List.map_singleton, String.intercalate_singleton, Text.upper, String.toList_ofList, chars]
    omega
  have plain : ∀ c ∈ "".toList, c ≠ '?' ∧ c ≠ '#' := Text.forall_mem_of_all rfl
  obtain ⟨host, written⟩ := exists_testHost
  obtain ⟨url, unsent⟩ := @Client.exists_unsent_of_long host "" (.inl rfl) plain none [symbol] long
  rw [String.append_empty, written, ← asked] at unsent
  have ran : call = _ := run_lastTrades_of_unsent (by rw [asked]; exact List.cons_ne_nil _ _) unsent
  rw [ran]
  exact ⟨fun comma => absurd (only _ comma) (by decide), notBlank, rfl, _, rfl⟩

end Exchange

end PriceHistory
