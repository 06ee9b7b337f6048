import PriceHistory.Text.Blank
import PriceHistory.Text.Digits

/-!
Minutes of the day, their written form `09:30`, and the minutes of the trading session.
-/
namespace PriceHistory.Calendar

open PriceHistory.Text

/-- A minute of the day. -/
structure TimeOfDay where
  hour : Nat
  minute : Nat
  hour_lt : hour < 24 := by omega
  minute_lt : minute < 60 := by omega
  deriving DecidableEq

namespace TimeOfDay

/-- The time of an hour and a minute, where there is one. -/
def of? (hour minute : Nat) : Option TimeOfDay :=
  if h : hour < 24 ∧ minute < 60 then some ⟨hour, minute, h.1, h.2⟩ else none

/-- The minutes since midnight. -/
def sinceMidnight (t : TimeOfDay) : Nat :=
  60 * t.hour + t.minute

/-- The written form: two digits, a colon, two digits. -/
def text (t : TimeOfDay) : String :=
  String.ofList (padded 2 t.hour ++ ':' :: padded 2 t.minute)

/-- Reads the written form, with one digit allowed for two and blanks in front of each number. -/
def ofText? (s : String) : Option TimeOfDay :=
  match number? 2 (dropBlanks s.toList) with
  | some (hour, ':' :: rest) =>
    match number? 2 (dropBlanks rest) with
    | some (minute, []) => of? hour minute
    | _ => none
  | _ => none

/-- The first minute of the session, 09:30. -/
def sessionOpen : Nat := 9 * 60 + 30

/-- The last minute of the session, 16:00. -/
def sessionClose : Nat := 16 * 60

/-- Every minute of the session, in ascending order. -/
def sessionMinutes : List TimeOfDay :=
  (List.range' sessionOpen (sessionClose + 1 - sessionOpen)).filterMap fun n => of? (n / 60) (n % 60)

end TimeOfDay

end PriceHistory.Calendar
