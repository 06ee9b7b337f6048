import Mathlib.Data.List.Basic
import PriceHistory.Calendar.TimeOfDay
import PriceHistory.Proofs.Text.Digits

/-!
The written form of a minute read back, and the minutes of the session.
-/
namespace PriceHistory.Calendar.TimeOfDay

open PriceHistory.Text

/-- Every minute is read back from its written form. -/
@[simp] theorem ofText?_text (t : TimeOfDay) : ofText? t.text = some t := by
  have hour := t.hour_lt
  have minute := t.minute_lt
  have first (rest : List Char) : number? 2 (dropBlanks (padded 2 t.hour ++ rest)) =
      some (t.hour, rest) := number?_padded (by decide) (show t.hour < 100 by omega) rest
  have last : number? 2 (dropBlanks (padded 2 t.minute ++ [])) = some (t.minute, []) :=
    number?_padded (by decide) (show t.minute < 100 by omega) []
  rw [List.append_nil] at last
  simp [ofText?, text, first, last, of?, hour, minute]

/-- No two minutes share their written form. -/
theorem text_inj {t u : TimeOfDay} : t.text = u.text ↔ t = u := by
  constructor
  · intro same
    have read := congrArg ofText? same
    simpa using read
  · rintro rfl
    rfl

/-- The session is the minutes from its first to its last. -/
theorem mem_sessionMinutes {t : TimeOfDay} :
    t ∈ sessionMinutes ↔ sessionOpen ≤ t.sinceMidnight ∧ t.sinceMidnight ≤ sessionClose := by
  have hour := t.hour_lt
  have minute := t.minute_lt
  simp only [sessionMinutes, List.mem_filterMap, List.mem_range'_1, of?, sessionOpen, sessionClose,
    sinceMidnight]
  constructor
  · rintro ⟨n, range, found⟩
    split at found
    · cases found
      dsimp only
      omega
    · cases found
  · intro range
    refine ⟨60 * t.hour + t.minute, by omega, ?_⟩
    have hours : (60 * t.hour + t.minute) / 60 = t.hour := by omega
    have minutes : (60 * t.hour + t.minute) % 60 = t.minute := by omega
    simp [hours, minutes, hour, minute]

/-- They are in ascending order, each once. -/
theorem map_sinceMidnight_sessionMinutes : sessionMinutes.map sinceMidnight =
    List.range' sessionOpen (sessionClose + 1 - sessionOpen) := by
  have each : ∀ n ∈ List.range' sessionOpen (sessionClose + 1 - sessionOpen),
      (of? (n / 60) (n % 60)).map sinceMidnight = some n := by
    intro n member
    rw [List.mem_range'_1, sessionOpen, sessionClose] at member
    have time : n / 60 < 24 ∧ n % 60 < 60 := by omega
    rw [of?, dif_pos time, Option.map_some, sinceMidnight]
    exact congrArg some (Nat.div_add_mod n 60)
  rw [sessionMinutes, List.map_filterMap, List.filterMap_congr each, List.filterMap_some]

end PriceHistory.Calendar.TimeOfDay
