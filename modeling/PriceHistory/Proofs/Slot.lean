import PriceHistory.Slot
import PriceHistory.Proofs.Calendar.TimeOfDay

/-!
What the text of a slot is read back as. The marker comes back as the minute 10:50 and the minute at
midnight as the whole day; every other slot comes back as it was.
-/
namespace PriceHistory.Slot

open PriceHistory.Calendar

/-- The minute whose text the marker shares. -/
def markerTime : TimeOfDay := ⟨10, 50, by omega, by omega⟩

/-- The slot that the text of a slot is read as. -/
def readBack : Slot → Slot
  | minute time => if time.text = wholeDayText then wholeDay else minute time
  | wholeDay => wholeDay
  | marker => minute markerTime

theorem text_markerTime : markerTime.text = markerText := by decide

/-- Every slot's text can be read. -/
@[simp] theorem ofText?_text (slot : Slot) : ofText? slot.text = .ok slot.readBack := by
  cases slot with
  | minute time =>
    by_cases midnight : time.text = wholeDayText <;> simp [ofText?, text, readBack, midnight]
  | wholeDay => simp [ofText?, text, readBack]
  | marker =>
    have other : markerText ≠ wholeDayText := by decide
    have read := TimeOfDay.ofText?_text markerTime
    rw [text_markerTime] at read
    simp [ofText?, text, readBack, other, read]

/-- A slot and what it is read back as have one text. -/
@[simp] theorem text_readBack (slot : Slot) : slot.readBack.text = slot.text := by
  cases slot with
  | minute time =>
    by_cases midnight : time.text = wholeDayText
    · simp [readBack, text, midnight]
    · simp [readBack, midnight]
  | wholeDay => rfl
  | marker => exact text_markerTime

theorem readBack_inj {a b : Slot} : a.readBack = b.readBack ↔ a.text = b.text := by
  constructor
  · intro same
    rw [← text_readBack a, same, text_readBack]
  · intro same
    have read := congrArg ofText? same
    simpa using read

@[simp] theorem readBack_readBack (slot : Slot) : slot.readBack.readBack = slot.readBack :=
  readBack_inj.mpr (text_readBack slot)

/-- A minute of the session is read back as itself. -/
theorem readBack_session {time : TimeOfDay} (member : time ∈ TimeOfDay.sessionMinutes) :
    (minute time).readBack = minute time := by
  have midnight : time.text ≠ wholeDayText := by
    intro same
    have zero : time = ⟨0, 0, by omega, by omega⟩ :=
      TimeOfDay.text_inj.mp (same.trans (by decide))
    subst zero
    exact absurd (TimeOfDay.mem_sessionMinutes.mp member).1 (by decide)
  exact if_neg midnight

end PriceHistory.Slot
