import PriceHistory.Calendar.TimeOfDay
import PriceHistory.Error

/-!
Which point within a day a price belongs to. The whole day and the minute at midnight are two slots
with one text, and so are the marker of a complete day and the minute 10:50.
-/
namespace PriceHistory

open PriceHistory.Calendar

/-- A slot within a day. -/
inductive Slot where
  /-- One minute of the day. -/
  | minute (time : TimeOfDay)
  /-- The day as a whole. -/
  | wholeDay
  /-- The point whose presence says that the day is stored minute by minute. It is looked for, and
  is stored as the minute 10:50. -/
  | marker
  deriving DecidableEq

namespace Slot

/-- The text that stands for the whole day. -/
def wholeDayText : String := "00:00"

/-- The text that stands for the marker. -/
def markerText : String := "10:50"

/-- The written form of a slot. -/
def text : Slot → String
  | minute time => time.text
  | wholeDay => wholeDayText
  | marker => markerText

/-- Reads a slot: `00:00` is the whole day, any other time is a minute. -/
def ofText? (s : String) : Except Failure Slot :=
  if s = wholeDayText then .ok wholeDay
  else
    match TimeOfDay.ofText? s with
    | some time => .ok (minute time)
    | none => .error (.minute s)

/-- Is this slot the whole day? -/
def isWholeDay : Slot → Bool
  | wholeDay => true
  | _ => false

end Slot

end PriceHistory
