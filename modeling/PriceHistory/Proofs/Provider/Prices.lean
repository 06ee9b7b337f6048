import PriceHistory.Proofs.Calendar.Order
import PriceHistory.Proofs.Database.Store
import PriceHistory.Proofs.Json.Spelling
import PriceHistory.Proofs.Provider.Client

/-!
Prices as the provider gives them, decoded, filed and read back. Integers of 64 bits, numbers of up to
fifteen digits and texts come through with their values; a number of more digits is rounded on the way.
-/
namespace PriceHistory

open PriceHistory.Calendar PriceHistory.Database PriceHistory.Text PriceHistory.Web

/-- Does a JSON value give this number in a form that is decoded without rounding? -/
inductive Json.Gives : Json → ℚ → Prop where
  /-- An integer of 64 bits. -/
  | integer {literal : Numeral} {i : ℤ} (found : literal.integer? = some i) :
    Gives (.number literal) literal.value
  /-- A number of up to fifteen digits, not far from one. -/
  | short {literal : Numeral} (short : literal.Short) : Gives (.number literal) literal.value
  /-- A text of digits, of any number of them. -/
  | text {literal : Numeral} (formed : literal.Formed) (legible : literal.Legible) {letter : Char}
    (marks : Decimal.isExponentLetter letter = true) (plus : Bool) :
    Gives (.string (some (literal.text letter plus))) literal.value

namespace Decimal

theorem exists_of?_integer {i : ℤ} (small : i.natAbs < 1 <<< 64) :
    ∃ d, of? i 0 = some d ∧ d.value = i := by
  have fits : i.natAbs < coefficientLimit ∧ 0 ≤ maxScale :=
    ⟨lt_trans small (by decide), Nat.zero_le _⟩
  refine ⟨_, dif_pos fits, ?_⟩
  rw [value_signed, Magnitude.value, pow_zero, div_one]
  by_cases negative : i < 0
  · rw [if_pos (decide_eq_true negative), ← Int.cast_natCast, Int.ofNat_natAbs_of_nonpos negative.le]
    push_cast
    ring
  · rw [if_neg (by simpa using negative), ← Int.cast_natCast, Int.natAbs_of_nonneg (by omega)]

theorem exists_ofJson?_integer {literal : Json.Numeral} {i : ℤ} (found : literal.integer? = some i) :
    ∃ d, ofJson? (.number literal) = some d ∧ d.value = literal.value := by
  obtain ⟨d, made, value⟩ := exists_of?_integer (Json.Numeral.natAbs_of_integer? found)
  refine ⟨d, ?_, by rw [value, Json.Numeral.value_of_integer? found]⟩
  rw [ofJson?, found]
  exact made

/-- A short number is the shortest decimal of the floating-point number that is taken for it. -/
theorem exists_ofJson?_short {literal : Json.Numeral} (short : literal.Short) (has : Has literal.value) :
    ∃ d, ofJson? (.number literal) = some d ∧ d.value = literal.value := by
  cases whole : literal.integer? with
  | some i => exact exists_ofJson?_integer whole
  | none =>
    obtain ⟨x, approximated, shortest⟩ := Json.Numeral.exists_approximate? short
    obtain ⟨front, back, written, digits, nonempty, value⟩ := Binary64.positional_eq x
    have has := has_abs has
    rw [Json.Numeral.abs_value, ← shortest, ← value] at has
    obtain ⟨d, read, exact⟩ := ofText?_of_has
      (fun c member => digits c (List.mem_append_left _ member))
      (fun c member => digits c (List.mem_append_right _ member)) nonempty has literal.negative
    refine ⟨d, ?_, ?_⟩
    · rw [signed, ← written] at read
      simp [ofJson?, whole, approximated, read, Except.toOption]
    · rw [exact, value, shortest]
      rfl

/-- What is given without rounding is decoded as a decimal of its value, if there is one. -/
theorem exists_ofJson? {j : Json} {q : ℚ} (given : j.Gives q) (has : Has q) :
    ∃ d, ofJson? j = some d ∧ d.value = q := by
  cases given with
  | integer found => exact exists_ofJson?_integer found
  | short short => exact exists_ofJson?_short short has
  | text formed legible marks plus =>
    obtain ⟨d, read, value⟩ := Json.Numeral.exists_ofText?_text formed legible has marks plus
    exact ⟨d, by rw [ofJson?, read]; rfl, value⟩

end Decimal

/-! ### Points and records -/

/-- The numbers of a point. -/
inductive Figure where
  | openPrice
  | high
  | low
  | close
  | volume
  deriving DecidableEq

namespace Figure

/-- The name of the member that gives a number. -/
def name : Figure → String
  | openPrice => "open"
  | high => "high"
  | low => "low"
  | close => "close"
  | volume => "volume"

/-- The number in a record. -/
def of (r : Record) : Figure → Option Decimal
  | openPrice => r.openPrice
  | high => r.high
  | low => r.low
  | close => r.close
  | volume => some r.volume

theorem value_of_readBack (r : Record) (figure : Figure) :
    (of r.readBack figure).map Decimal.value = (of r figure).map Decimal.value := by
  cases figure <;> simp [of, Record.readBack, Function.comp_def]

end Figure

namespace Record

/-- Has a record the numbers that members give without rounding? -/
def Keeps (r : Record) (members : List (String × Json)) : Prop :=
  ∀ (figure : Figure) j q, members.lookup figure.name = some j → j.Gives q → Decimal.Has q →
    (figure.of r).map Decimal.value = some q

variable {r : Record} {members : List (String × Json)}

theorem Keeps.readBack (keeps : r.Keeps members) : r.readBack.Keeps members := by
  intro figure j q found given has
  rw [Figure.value_of_readBack]
  exact keeps figure j q found given has

theorem Keeps.rekeyed (keeps : r.Keeps members) (symbol : String) (slot : Slot) :
    (r.rekeyed symbol slot).Keeps members := by
  intro figure j q found given has
  rw [← keeps figure j q found given has]
  cases figure <;> rfl

end Record

/-- A member that gives a number without rounding is read as a decimal of its value. -/
theorem Json.Says.map_value {members : List (String × Json)} {name : String} {price : Option Decimal}
    (told : Says Decimal.ofJson? members name price) {j : Json} {q : ℚ}
    (found : members.lookup name = some j) (given : j.Gives q) (has : Decimal.Has q) :
    price.map Decimal.value = some q := by
  obtain ⟨d, read, value⟩ := Decimal.exists_ofJson? given has
  cases price with
  | none =>
    -- Neither an absent member nor null gives a number.
    rcases told with absent | null <;> rw [found] at *
    · cases absent
    · cases null
      cases given
  | some price =>
    obtain ⟨j', found', read'⟩ := told
    rw [found] at found'
    cases found'
    rw [read] at read'
    cases read'
    rw [Option.map_some, value]

/-- The members that a point is read from. -/
def ChartPoint.memberNames : List String :=
  ["date", "minute", "open", "high", "low", "close", "volume"]

/-- The record of a point has the numbers of the item that shows the point. -/
theorem ChartPoint.keeps_of_record? {item : Json} {p : ChartPoint} (shown : p.ShownBy item) {symbol : String}
    {r : Record} (made : p.record? symbol = some r) :
    ∃ members, item.members? memberNames = some members ∧ r.Keeps members := by
  obtain ⟨members, named, -, -, first, high, low, last, volume⟩ := shown
  have filed := filedAs_of_record? made
  refine ⟨members, named, ?_⟩
  intro figure j q found given has
  cases figure with
  | openPrice => rw [Figure.of, filed.openPrice, first.map_value found given has]
  | high => rw [Figure.of, filed.high, high.map_value found given has]
  | low => rw [Figure.of, filed.low, low.map_value found given has]
  | close => rw [Figure.of, filed.close, last.map_value found given has]
  | volume =>
    have counted := Json.Says.map_value volume found given has
    rw [Figure.of, filed.volume]
    cases known : p.volume with
    | none =>
      rw [known] at counted
      cases counted
    | some d =>
      rw [known] at counted
      exact counted

/-! ### Replies -/

namespace Client

variable {τ α : Type} {client : Client} {transport : Transport (StateM τ)}

theorem exists_reply_of_fetch {read : Json → Option α} {address : Address} {before : τ} {values : List α}
    (fetched : (client.fetch transport read address before).1 = .ok values) :
    ∃ url reply items, client.sentUrl? address = .ok url ∧ (transport url before).1 = some reply ∧
      reply.body.bind Json.ofBytes? = some (.list items) ∧
      List.Forall₂ (fun item value => read item = some value) items values := by
  cases sent : client.sentUrl? address with
  | error fault =>
    rw [fetch_of_unsendable sent] at fetched
    cases fetched
  | ok url =>
    rw [fetch_of_sent sent] at fetched
    have fetched : received read address url (transport url before).1 = .ok values := fetched
    cases arrived : (transport url before).1 with
    | none =>
      rw [arrived] at fetched
      cases fetched
    | some reply =>
      rw [arrived, received, readReply] at fetched
      split at fetched
      · split at fetched
        next found =>
          cases fetched
          obtain ⟨body, parsed, taken⟩ := Option.bind_eq_some_iff.mp found
          obtain ⟨items, rfl, each⟩ := Json.items?_eq_some_iff.mp taken
          exact ⟨url, reply, items, rfl, arrived, parsed, each⟩
        · cases fetched
      · cases fetched

/-- A client with any way to the web. Whatever literal is read from a document is well formed. An integer of
64 bits, a number of up to fifteen digits that is not far from one, and a text of digits are decoded as a
decimal of just their value, if there is one. So the records of a chart have the numbers of the items that
show them, in whatever slot they are filed, and have them still when they are read back from a table; and a
last trade has the price that its item gives. -/
theorem prices_kept (client : Client) (transport : Transport (StateM τ)) :
    (∀ bytes literal rest, Json.readNumber bytes = some (literal, rest) → literal.Formed) ∧
    (∀ j q, j.Gives q → Decimal.Has q → ∃ d, Decimal.ofJson? j = some d ∧ d.value = q) ∧
    (∀ request before records, (client.chart transport request before).1 = .ok records →
      ∃ url reply items points, client.sentUrl? (client.chartAddress request) = .ok url ∧
        (transport url before).1 = some reply ∧ reply.body.bind Json.ofBytes? = some (.list items) ∧
        records = points.filterMap (·.record? (chartSymbol request)) ∧
        List.Forall₂ (fun item (p : ChartPoint) => ∀ r, p.record? (chartSymbol request) = some r →
          ∃ members, item.members? ChartPoint.memberNames = some members ∧
            ∀ symbol slot, (r.rekeyed symbol slot).Keeps members ∧
              ∀ t : Table, t.Filled → ∃ stored,
                (t.put (r.rekeyed symbol slot)).find? (r.rekeyed symbol slot).key = .ok (some stored) ∧
                  stored.Keeps members) items points) ∧
    ∀ symbols before trades, ((client.provider transport).lastTrades symbols before).1 = .ok trades →
      ∃ url reply items, client.sentUrl? (client.lastTradesAddress symbols) = .ok url ∧
        (transport url before).1 = some reply ∧ reply.body.bind Json.ofBytes? = some (.list items) ∧
        List.Forall₂ (fun item (trade : LastTrade) => ∃ members j,
          item.members? ["symbol", "price", "size", "time"] = some members ∧
            members.lookup "price" = some j ∧
            ∀ q, j.Gives q → Decimal.Has q → trade.price.value = q) items trades := by
  refine ⟨fun _ _ _ => Json.formed_of_readNumber, fun _ _ => Decimal.exists_ofJson?, ?_, ?_⟩
  · intro request before records answered
    rw [chart_eq] at answered
    obtain ⟨points, fetched, made⟩ : ∃ points,
        (client.fetch transport ChartPoint.ofJson? (client.chartAddress request) before).1 = .ok points ∧
          records = points.filterMap (·.record? (chartSymbol request)) := by
      have answered : ((client.fetch transport ChartPoint.ofJson? (client.chartAddress request) before).1).map
          (List.filterMap (·.record? (chartSymbol request))) = .ok records := answered
      cases fetched : (client.fetch transport ChartPoint.ofJson? (client.chartAddress request) before).1 with
      | error e =>
        rw [fetched] at answered
        cases answered
      | ok points =>
        rw [fetched] at answered
        cases answered
        exact ⟨points, rfl, rfl⟩
    obtain ⟨url, reply, items, sent, arrived, parsed, each⟩ := exists_reply_of_fetch fetched
    refine ⟨url, reply, items, points, sent, arrived, parsed, made, each.imp ?_⟩
    intro item p read r filed
    obtain ⟨members, named, keeps⟩ :=
      ChartPoint.keeps_of_record? (ChartPoint.ofJson?_eq_some_iff.mp read) filed
    refine ⟨members, named, fun symbol slot => ⟨keeps.rekeyed symbol slot, fun t filled => ?_⟩⟩
    refine ⟨(r.rekeyed symbol slot).readBack, ?_, (keeps.rekeyed symbol slot).readBack⟩
    rw [(filled.put _).find?_eq, filled.held_put, if_pos rfl]
  · intro symbols before trades answered
    obtain ⟨url, reply, items, sent, arrived, parsed, each⟩ := exists_reply_of_fetch answered
    refine ⟨url, reply, items, sent, arrived, parsed, each.imp ?_⟩
    intro item trade read
    simp only [LastTrade.ofJson?, Option.bind_eq_bind, Option.pure_def, Option.bind_eq_some_iff,
      Json.required] at read
    obtain ⟨members, named, _, _, price, ⟨j, found, read⟩, _, _, _, _, made⟩ := read
    cases made
    refine ⟨members, j, named, found, fun q given has => ?_⟩
    obtain ⟨d, read', value⟩ := Decimal.exists_ofJson? given has
    rw [read] at read'
    cases read'
    exact value

/-- A web that replies to each request with this body. -/
private def replying (body : String) : Transport (StateM Unit) := fun _ s =>
  (some ⟨200, body.toList.map Json.byte⟩, s)

/-- A chart of one point with these members. -/
private def chartBody (members : String) : String :=
  "[\x7b\"date\":\"2021-06-25\"," ++ members ++ "\x7d]"

/-- The literal that a member of the only item of a list gives. -/
private def literalAt? (name : String) : Json → Option Json.Numeral
  | .list [item] =>
    match (item.members? ChartPoint.memberNames).bind (·.lookup name) with
    | some (.number literal) => some literal
    | _ => none
  | _ => none

private theorem exists_of_literalAt? {name : String} {items : List Json} {literal : Json.Numeral}
    (found : literalAt? name (.list items) = some literal) : ∃ item members, items = [item] ∧
      item.members? ChartPoint.memberNames = some members ∧
        members.lookup name = some (.number literal) := by
  unfold literalAt? at found
  split at found
  next item same =>
    split at found
    next given =>
      cases found
      cases same
      obtain ⟨members, named, given⟩ := Option.bind_eq_some_iff.mp given
      exact ⟨item, members, rfl, named, given⟩
    · cases found
  · cases found

/-- A price of two places, the largest volume that has 64 bits, and a text of seventeen digits. -/
theorem prices_kept_three :
    let call := (Client.of "http://iex.test" none).chart
      (replying (chartBody "\"close\":1.10,\"volume\":18446744073709551615")) (.days "aapl" .oneMonth) ()
    (∃ r members, call.1 = .ok [r] ∧ r.Keeps members ∧ r.close.map Decimal.value = some (11 / 10) ∧
      r.volume.value = 18446744073709551615 ∧
      ∃ stored, (Table.empty.put r).find? r.key = .ok (some stored) ∧
        stored.close.map Decimal.value = some (11 / 10)) ∧
      ∃ d, Decimal.ofJson? (.string (some "0.12345678901234567")) = some d ∧
        d.value = 12345678901234567 / 10 ^ 17 := by
  intro call
  obtain ⟨-, decoded, charts, -⟩ := prices_kept (Client.of "http://iex.test" none)
    (replying (chartBody "\"close\":1.10,\"volume\":18446744073709551615"))
  constructor
  · let day : Date := .ofJune 25
    let r : Record := ⟨.of "aapl" day .wholeDay, none, none, none, Decimal.of? 11 1,
      (Decimal.of? 18446744073709551615 0).getD .zero⟩
    have answered : call.1 = .ok [r] := by decide +kernel
    obtain ⟨url, reply, items, points, -, arrived, parsed, made, each⟩ :=
      charts (.days "aapl" .oneMonth) () [r] answered
    cases arrived
    let price : Json.Numeral := ⟨false, ['1'], ['1', '0'], none⟩
    let count : Json.Numeral := ⟨false, "18446744073709551615".toList, [], none⟩
    have given (name : String) : ((Json.ofBytes? ((chartBody
        "\"close\":1.10,\"volume\":18446744073709551615").toList.map Json.byte)).bind (literalAt? name)) =
          literalAt? name (.list items) := by
      rw [Option.bind_some] at parsed
      rw [parsed, Option.bind_some]
    obtain ⟨item, members, rfl, named, closing⟩ := exists_of_literalAt?
      ((given "close").symm.trans (by decide +kernel : _ = some price))
    obtain ⟨_, _, same, named', counted⟩ := exists_of_literalAt?
      ((given "volume").symm.trans (by decide +kernel : _ = some count))
    cases same
    rw [named] at named'
    cases named'
    cases each with
    | @cons _ p _ _ first rest =>
      cases rest
      have found : p.record? "aapl" = some r := by
        cases found : p.record? "aapl" with
        | none => simp [chartSymbol, found] at made
        | some other => simpa [chartSymbol, found] using made.symm
      obtain ⟨members', named', all⟩ := first r found
      rw [named] at named'
      cases named'
      obtain ⟨keeps, stores⟩ := all "aapl" .wholeDay
      obtain ⟨stored, here, kept⟩ := stores .empty .empty
      have short : price.Short := ⟨by decide, by decide, by simp [price]⟩
      have tenths : price.value = 11 / 10 := by decide +kernel
      have whole : count.value = 18446744073709551615 := by decide +kernel
      have priced (r : Record) (keeps : r.Keeps members) : r.close.map Decimal.value = some (11 / 10) := by
        rw [← tenths]
        exact keeps .close _ _ closing (.short short)
          ⟨(Decimal.of? 11 1).getD .zero, by decide +kernel⟩
      have volume : (some r.volume).map Decimal.value = some count.value :=
        keeps .volume _ _ counted
          (.integer (by decide +kernel : count.integer? = some 18446744073709551615))
          ⟨(Decimal.of? 18446744073709551615 0).getD .zero, by decide +kernel⟩
      exact ⟨r, members, answered, keeps, priced r keeps, (Option.some.inj volume).trans whole, stored, here,
        priced stored kept⟩
  · let literal : Json.Numeral := ⟨false, ['0'], "12345678901234567".toList, none⟩
    have value : literal.value = 12345678901234567 / 10 ^ 17 := by decide +kernel
    have formed : literal.Formed :=
      ⟨forall_mem_of_all (by decide +kernel), by decide, fun given member => by cases member⟩
    have legible : literal.Legible := fun given member => by cases member
    rw [← value]
    exact decoded _ _ (.text formed legible (rfl : Decimal.isExponentLetter 'e' = true) false)
      ⟨(Decimal.of? 12345678901234567 17).getD .zero, by decide +kernel⟩

/-- Seventeen digits are more than a floating-point number keeps, though a decimal has room for them: the
last digit of the price is another one in the record. Sent as a text it stays. -/
theorem prices_rounded :
    let literal : Json.Numeral := ⟨false, ['0'], "12345678901234567".toList, none⟩
    let call := (Client.of "http://iex.test" none).chart
      (replying (chartBody "\"close\":0.12345678901234567")) (.days "aapl" .oneMonth) ()
    Json.readNumber ("0.12345678901234567".toList.map Json.byte) = some (literal, []) ∧
      Decimal.Has literal.value ∧
      (∃ r, call.1 = .ok [r] ∧ ∃ d ∈ r.close, d.value ≠ literal.value) ∧
      ∃ d, Decimal.ofJson? (.string (some "0.12345678901234567")) = some d ∧ d.value = literal.value := by
  intro literal call
  let rounded : Decimal := (Decimal.of? 12345678901234568 17).getD .zero
  let exact : Decimal := (Decimal.of? 12345678901234567 17).getD .zero
  have kept : exact.value = literal.value := by decide +kernel
  have changed : rounded.value ≠ literal.value := by decide +kernel
  let day : Date := .ofJune 25
  let r : Record := ⟨.of "aapl" day .wholeDay, none, none, none, some rounded, .zero⟩
  have answered : call.1 = .ok [r] := by decide +kernel
  have read : Json.readNumber ("0.12345678901234567".toList.map Json.byte) = some (literal, []) := by
    decide +kernel
  have sent : Decimal.ofJson? (.string (some "0.12345678901234567")) = some exact := by decide +kernel
  exact ⟨read, ⟨exact, kept⟩, ⟨r, answered, rounded, rfl, changed⟩, exact, sent, kept⟩

end Client

end PriceHistory
