import Mathlib.Data.List.Forall2
import PriceHistory.Provider.Payload

/-!
What the provider's documents say, member by member. A list is read only if each of its items is, and a
point of a chart has a record exactly if its date can be read and its minute is absent, null or can be
read.
-/
namespace PriceHistory

open PriceHistory.Calendar

namespace Json

variable {α : Type} {read : Json → Option α}

/-- Does a member that may be absent or null say this? -/
def Says (read : Json → Option α) (members : List (String × Json)) (name : String) : Option α → Prop
  | none => members.lookup name = none ∨ members.lookup name = some null
  | some value => ∃ j, members.lookup name = some j ∧ read j = some value

theorem optional_eq_some_iff (unread : read null = none) {members : List (String × Json)} {name : String}
    {value : Option α} : optional read members name = some value ↔ Says read members name value := by
  unfold optional
  cases found : members.lookup name with
  | none => cases value <;> simp [Says, found]
  | some j => cases j <;> cases value <;> simp [Says, found, unread]

theorem text?_eq_some_iff {j : Json} {text : String} : j.text? = some text ↔ j = string (some text) := by
  cases j <;> simp [text?]

/-- A list is read item by item, and nothing else is read as one. -/
theorem items?_eq_some_iff {j : Json} {values : List α} : j.items? read = some values ↔
    ∃ items, j = list items ∧ List.Forall₂ (fun item value => read item = some value) items values := by
  cases j with
  | list items =>
    simp only [items?, list.injEq, exists_eq_left']
    -- The first item that is not read ends the reading, and then no list of values goes with the items.
    induction items generalizing values with
    | nil => cases values <;> simp
    | cons item items ih =>
      rw [List.mapM_cons]
      cases first : read item with
      | none => cases values <;> simp [first]
      | some value =>
        cases others : items.mapM read with
        | none => cases values <;> simp [first, others, ← ih]
        | some rest => cases values <;> simp [first, others, ← ih]
  | _ => simp [items?]

end Json

namespace ChartPoint

/-- Does a JSON value show this point? It may show more than the point has. -/
def ShownBy (j : Json) (p : ChartPoint) : Prop :=
  ∃ members, j.members? ["date", "minute", "open", "high", "low", "close", "volume"] = some members ∧
    members.lookup "date" = some (.string (some p.date)) ∧
    Json.Says Json.text? members "minute" p.minute ∧
    Json.Says Decimal.ofJson? members "open" p.openPrice ∧
    Json.Says Decimal.ofJson? members "high" p.high ∧ Json.Says Decimal.ofJson? members "low" p.low ∧
    Json.Says Decimal.ofJson? members "close" p.close ∧
    Json.Says Decimal.ofJson? members "volume" p.volume

theorem ofJson?_eq_some_iff {j : Json} {p : ChartPoint} : ofJson? j = some p ↔ ShownBy j p := by
  -- Neither a text nor a price is read from null, so a member that is null reads as one that is absent.
  have text {members : List (String × Json)} {name : String} {value : Option String} :
      Json.optional Json.text? members name = some value ↔ Json.Says Json.text? members name value :=
    Json.optional_eq_some_iff rfl
  have price {members : List (String × Json)} {name : String} {value : Option Decimal} :
      Json.optional Decimal.ofJson? members name = some value ↔
        Json.Says Decimal.ofJson? members name value :=
    Json.optional_eq_some_iff rfl
  obtain ⟨date, minute, openPrice, high, low, close, volume⟩ := p
  simp only [ofJson?, Option.bind_eq_bind, Option.pure_def, Option.bind_eq_some_iff, Json.required,
    Json.text?_eq_some_iff, text, price, ShownBy]
  constructor
  · rintro ⟨members, named, _, ⟨_, dated, rfl⟩, _, minute, _, first, _, high, _, low, _, last, _, volume,
      made⟩
    cases made
    exact ⟨members, named, dated, minute, first, high, low, last, volume⟩
  · rintro ⟨members, named, dated, minute, first, high, low, last, volume⟩
    exact ⟨members, named, _, ⟨_, dated, rfl⟩, _, minute, _, first, _, high, _, low, _, last, _, volume,
      rfl⟩

/-- Can the date of a point be read, and its minute where it has one? -/
def Readable (p : ChartPoint) : Prop :=
  (Date.ofText? p.date).isSome ∧ ∀ text ∈ p.minute, (TimeOfDay.ofText? text).isSome

instance : DecidablePred Readable :=
  fun p => inferInstanceAs (Decidable
    ((Date.ofText? p.date).isSome ∧ ∀ text ∈ p.minute, (TimeOfDay.ofText? text).isSome))

/-- Is this the record of a point under a symbol? -/
structure FiledAs (own : String) (p : ChartPoint) (r : Record) : Prop where
  symbol : r.key.symbol = .of own
  date : Date.ofText? p.date = some r.key.date
  slot : p.minute = none ∧ r.key.slot = .wholeDay ∨
    ∃ text time, p.minute = some text ∧ TimeOfDay.ofText? text = some time ∧ r.key.slot = .minute time
  openPrice : r.openPrice = p.openPrice
  high : r.high = p.high
  low : r.low = p.low
  close : r.close = p.close
  volume : r.volume = p.volume.getD .zero

theorem filedAs_of_record? {symbol : String} {p : ChartPoint} {r : Record}
    (found : p.record? symbol = some r) : p.FiledAs symbol r := by
  simp only [record?, Option.bind_eq_bind, Option.pure_def, Option.bind_eq_some_iff] at found
  obtain ⟨date, dated, slot, placed, made⟩ := found
  cases made
  refine ⟨rfl, dated, ?_, rfl, rfl, rfl, rfl, rfl⟩
  cases given : p.minute with
  | none =>
    rw [slot?, given] at placed
    cases placed
    exact .inl ⟨rfl, rfl⟩
  | some text =>
    rw [slot?, given] at placed
    obtain ⟨time, read, rfl⟩ := Option.map_eq_some_iff.mp placed
    exact .inr ⟨text, time, rfl, read, rfl⟩

theorem isSome_record?_iff {symbol : String} {p : ChartPoint} :
    (p.record? symbol).isSome ↔ p.Readable := by
  unfold record? slot? Readable
  cases Date.ofText? p.date with
  | none => simp
  | some date =>
    cases p.minute with
    | none => simp
    | some text => cases read : TimeOfDay.ofText? text <;> simp [read]

theorem record?_eq_none_iff {symbol : String} {p : ChartPoint} :
    p.record? symbol = none ↔ ¬p.Readable := by
  rw [← isSome_record?_iff, Option.not_isSome_iff_eq_none]

/-- Of some points those that can be read have records, in their order. -/
theorem filedAs_filterMap (symbol : String) (points : List ChartPoint) :
    List.Forall₂ (FiledAs symbol) (points.filter (·.Readable)) (points.filterMap (·.record? symbol)) := by
  induction points with
  | nil => exact .nil
  | cons p points ih =>
    cases found : p.record? symbol with
    | none =>
      rw [List.filterMap_cons_none found, List.filter_cons_of_neg (by simpa using record?_eq_none_iff.mp found)]
      exact ih
    | some r =>
      have readable : p.Readable := isSome_record?_iff.mp (by rw [found]; rfl)
      rw [List.filterMap_cons_some found, List.filter_cons_of_pos (by simpa using readable)]
      exact .cons (filedAs_of_record? found) ih

end ChartPoint

end PriceHistory
