import PriceHistory.Calendar.DateText
import PriceHistory.Proofs.Text.Digits

/-!
The written forms of a date read back. The canonical form of every date is read as that date, and so
is the compact form of a date whose year has four digits.
-/
namespace PriceHistory.Calendar.Date

open PriceHistory.Text

theorem month_lt (d : Date) : d.month < 100 := by
  have := d.isDate.2.1
  omega

theorem day_lt (d : Date) : d.day < 100 := by
  have := daysIn_bounds d.year d.month
  have := d.isDate.2.2
  omega

private theorem readYear_plain {n : Nat} (short : n < Nat.pow 10 4) (rest : List Char) :
    readYear (padded 4 n ++ rest) = some ((n : Int), rest) := by
  have read := number?_padded (by decide) short rest
  obtain ⟨c, cs, starts, digit⟩ := exists_padded_eq_cons 4 n
  unfold readYear
  split
  -- A digit is none of the two signs.
  next minus =>
    rw [dropBlanks_append (fun _ => isDigit_of_mem_padded) (padded_ne_nil 4 n), starts] at minus
    rw [(List.cons.inj minus).1] at digit
    cases digit
  next plus =>
    rw [dropBlanks_append (fun _ => isDigit_of_mem_padded) (padded_ne_nil 4 n), starts] at plus
    rw [(List.cons.inj plus).1] at digit
    cases digit
  · rw [read]
    rfl

/-- Behind a sign the year takes all the digits that there are. -/
private theorem readYear_signed {sign : Char} (signed : sign = '-' ∨ sign = '+') {ds rest : List Char}
    (digits : ∀ c ∈ ds, c.isDigit = true) (nonempty : ds ≠ [])
    (stops : ∀ c ∈ rest.head?, c.isDigit = false) :
    readYear (sign :: (ds ++ rest)) =
      some (if sign = '-' then -(digitsValue ds : Int) else digitsValue ds, rest) := by
  have within : ds.length ≤ (ds ++ rest).length := by simp
  have read := number?_append digits nonempty within (.inr stops)
  have kept : dropBlanks (sign :: (ds ++ rest)) = sign :: (ds ++ rest) := by
    rcases signed with rfl | rfl <;> rfl
  rw [readYear, kept]
  rcases signed with rfl | rfl <;> simp only [read, Option.map_some] <;> rfl

/-- The sign that is written before a year. -/
private theorem sign_cases (year : Int) :
    (if year < 0 then '-' else '+') = '-' ∨ (if year < 0 then '-' else '+') = '+' := by
  split <;> simp

/-- A written year is read back up to the dash behind it. -/
theorem readYear_yearText (year : Int) (rest : List Char) :
    readYear (yearText year ++ '-' :: rest) = some (year, '-' :: rest) := by
  unfold yearText
  by_cases plain : 0 ≤ year ∧ year ≤ 9999
  · rw [if_pos plain, readYear_plain (show year.toNat < 10000 by omega)]
    simp only [Option.some.injEq, Prod.mk.injEq, and_true]
    omega
  · rw [if_neg plain, List.cons_append, readYear_signed (sign_cases year)
      (fun _ => isDigit_of_mem_padded) (padded_ne_nil 4 _) (by simp), digitsValue_padded]
    simp only [Option.some.injEq, Prod.mk.injEq, and_true]
    by_cases negative : year < 0
    · rw [if_pos negative, if_pos rfl]
      omega
    · rw [if_neg negative, if_neg (by decide)]
      omega

theorem readPair_padded {n : Nat} (short : n < 100) (rest : List Char) :
    readPair (padded 2 n ++ rest) = some (n, rest) :=
  number?_padded (by decide) short rest

theorem ofCanonical?_canonical (d : Date) : ofCanonical? d.canonical = some d := by
  have day := readPair_padded d.day_lt []
  rw [List.append_nil] at day
  have date : of? d.year d.month d.day = some d := of?_eq_some_iff.mpr ⟨rfl, rfl, rfl⟩
  simp [ofCanonical?, canonical, readYear_yearText, readPair_padded d.month_lt, day, readDash, date]

@[simp] theorem ofText?_canonical (d : Date) : ofText? d.canonical = some d := by
  simp [ofText?, ofCanonical?_canonical]

/-- No two dates share their canonical form. -/
theorem canonical_inj {a b : Date} : a.canonical = b.canonical ↔ a = b := by
  constructor
  · intro same
    have read := congrArg ofText? same
    simpa using read
  · rintro rfl
    rfl

/-- The compact form of a date whose year has four digits is digits alone. -/
theorem isDigit_of_mem_compact {d : Date} (plain : 0 ≤ d.year ∧ d.year ≤ 9999) {c : Char}
    (member : c ∈ d.compact.toList) : c.isDigit = true := by
  rw [compact, yearText, if_pos plain, String.toList_ofList, List.mem_append, List.mem_append] at member
  rcases member with (member | member) | member <;> exact isDigit_of_mem_padded member

private theorem padded_two {n : Nat} (short : n < Nat.pow 10 2) : ∃ a b, padded 2 n = [a, b] :=
  match padded 2 n, length_padded (by decide) short with
  | [a, b], _ => ⟨a, b, rfl⟩

private theorem padded_four {n : Nat} (short : n < Nat.pow 10 4) : ∃ a b c d, padded 4 n = [a, b, c, d] :=
  match padded 4 n, length_padded (by decide) short with
  | [a, b, c, d], _ => ⟨a, b, c, d, rfl⟩

/-- The compact form of a date is read back where its year has four digits. -/
theorem ofCompact?_compact {d : Date} (plain : 0 ≤ d.year ∧ d.year ≤ 9999) :
    ofCompact? d.compact = some d := by
  obtain ⟨y1, y2, y3, y4, year⟩ := padded_four (show d.year.toNat < 10000 by omega)
  obtain ⟨m1, m2, month⟩ := padded_two d.month_lt
  obtain ⟨d1, d2, day⟩ := padded_two d.day_lt
  have digits : ∀ c ∈ [y1, y2, y3, y4] ++ [m1, m2] ++ [d1, d2], c.isDigit = true := by
    intro c member
    rw [← year, ← month, ← day] at member
    simp only [List.mem_append] at member
    rcases member with (member | member) | member <;> exact isDigit_of_mem_padded member
  have date : of? (digitsValue [y1, y2, y3, y4]) (digitsValue [m1, m2]) (digitsValue [d1, d2]) =
      some d := by
    rw [← year, ← month, ← day, digitsValue_padded, digitsValue_padded, digitsValue_padded]
    exact of?_eq_some_iff.mpr ⟨by omega, rfl, rfl⟩
  have chars : d.compact.toList = [y1, y2, y3, y4, m1, m2, d1, d2] := by
    simp [compact, yearText, plain, year, month, day]
  simp only [ofCompact?, chars, date]
  exact if_pos (List.all_eq_true.mpr digits)

theorem compact_inj {a b : Date} (plain : 0 ≤ a.year ∧ a.year ≤ 9999) (plain' : 0 ≤ b.year ∧ b.year ≤ 9999) :
    a.compact = b.compact ↔ a = b := by
  refine ⟨fun same => ?_, congrArg compact⟩
  have read := ofCompact?_compact plain
  rw [same, ofCompact?_compact plain'] at read
  exact (Option.some.inj read).symm

/-- The compact form is read from the compact text of a date alone, and the year has four digits. -/
theorem ofCompact?_eq_some_iff {s : String} {d : Date} :
    ofCompact? s = some d ↔ s = d.compact ∧ 0 ≤ d.year ∧ d.year ≤ 9999 := by
  refine ⟨fun read => ?_, fun ⟨written, plain⟩ => written ▸ ofCompact?_compact plain⟩
  unfold ofCompact? at read
  split at read
  next y1 y2 y3 y4 m1 m2 d1 d2 chars =>
    split at read
    next all =>
      have digits : ∀ c ∈ [y1, y2, y3, y4] ++ [m1, m2] ++ [d1, d2], c.isDigit = true :=
        List.all_eq_true.mp all
      rw [List.forall_mem_append, List.forall_mem_append] at digits
      obtain ⟨⟨years, months⟩, days⟩ := digits
      obtain ⟨year, month, day⟩ := of?_eq_some_iff.mp read
      have bound : digitsValue [y1, y2, y3, y4] < 10000 := by simpa using digitsValue_lt years
      have plain : 0 ≤ d.year ∧ d.year ≤ 9999 := by omega
      -- Each of the three numerals is the one that the compact form writes for its number.
      have writtenYear : padded 4 d.year.toNat = [y1, y2, y3, y4] := by
        rw [year]
        exact padded_digitsValue years (List.cons_ne_nil _ _)
      have writtenMonth : padded 2 d.month = [m1, m2] := by
        rw [month]
        exact padded_digitsValue months (List.cons_ne_nil _ _)
      have writtenDay : padded 2 d.day = [d1, d2] := by
        rw [day]
        exact padded_digitsValue days (List.cons_ne_nil _ _)
      refine ⟨?_, plain⟩
      rw [← String.toList_inj, chars, compact, yearText, if_pos plain, writtenYear, writtenMonth,
        writtenDay, String.toList_ofList]
      rfl
    next => cases read
  next => cases read

/-- The canonical reader finds no dash in a compact text: a digit follows the year, or behind a sign
the year takes all that follows. -/
theorem ofCanonical?_compact (d : Date) : ofCanonical? d.compact = none := by
  have stuck : ∃ year rest, readYear d.compact.toList = some (year, rest) ∧ readDash rest = none := by
    rw [compact, String.toList_ofList, yearText, List.append_assoc]
    by_cases plain : 0 ≤ d.year ∧ d.year ≤ 9999
    · rw [if_pos plain]
      refine ⟨_, _, readYear_plain (show d.year.toNat < 10000 by omega) _, ?_⟩
      obtain ⟨c, cs, starts, digit⟩ := exists_padded_eq_cons 2 d.month
      rw [starts, List.cons_append, readDash, if_neg]
      rintro rfl
      cases digit
    · rw [if_neg plain, List.cons_append]
      have digits : ∀ c ∈ padded 4 d.year.natAbs ++ (padded 2 d.month ++ padded 2 d.day),
          c.isDigit = true := by
        intro c member
        simp only [List.mem_append] at member
        rcases member with year | month | day
        · exact isDigit_of_mem_padded year
        · exact isDigit_of_mem_padded month
        · exact isDigit_of_mem_padded day
      have none : ∀ c ∈ ([] : List Char).head?, c.isDigit = false := by simp
      have read := readYear_signed (sign_cases d.year) digits
        (List.append_ne_nil_of_left_ne_nil (padded_ne_nil 4 _) _) none
      rw [List.append_nil] at read
      exact ⟨_, _, read, rfl⟩
  obtain ⟨year, rest, read, noDash⟩ := stuck
  simp [ofCanonical?, read, noDash]

/-- A compact text with a sign is read as no date. -/
theorem ofCompact?_compact_of_signed {d : Date} (signed : ¬(0 ≤ d.year ∧ d.year ≤ 9999)) :
    ofCompact? d.compact = none := by
  cases read : ofCompact? d.compact with
  | none => rfl
  | some other =>
    obtain ⟨same, plain⟩ := ofCompact?_eq_some_iff.mp read
    -- The text has the sign of the one year, and is digits alone for the other.
    have sign : (if d.year < 0 then '-' else '+') ∈ d.compact.toList := by
      rw [compact, yearText, if_neg signed]
      simp
    rw [same] at sign
    have digit := isDigit_of_mem_compact plain sign
    rcases sign_cases d.year with minus | plus
    · rw [minus] at digit
      cases digit
    · rw [plus] at digit
      cases digit

/-- The two written forms of dates, and what is read from them. Every date is read back from its canonical
form, so no two share it. The compact form is read from a text exactly if the text is that of a date whose year
is from 0 to 9999, and no two of these share it; every other text is rejected. What is read as the compact form is
no canonical one, and either form is read from it as the same date. The compact text of any other date is read as
neither. -/
theorem forms_told_apart :
    ((∀ d : Date, ofText? d.canonical = some d) ∧
      ∀ one other : Date, one.canonical = other.canonical → one = other) ∧
    ((∀ (s : String) (d : Date), ofCompact? s = some d ↔ (0 ≤ d.year ∧ d.year ≤ 9999) ∧ s = d.compact) ∧
      (∀ one other : Date, 0 ≤ one.year ∧ one.year ≤ 9999 → 0 ≤ other.year ∧ other.year ≤ 9999 →
        one.compact = other.compact → one = other) ∧
      ∀ s : String, ofCompact? s = none ↔ ∀ d : Date, 0 ≤ d.year ∧ d.year ≤ 9999 → s ≠ d.compact) ∧
    (∀ (s : String) (d : Date), ofCompact? s = some d → ofCanonical? s = none ∧ ofText? s = some d) ∧
    ∀ d : Date, ¬(0 ≤ d.year ∧ d.year ≤ 9999) → ofText? d.compact = none := by
  refine ⟨⟨ofText?_canonical, fun _ _ => canonical_inj.mp⟩, ⟨?_, ?_, ?_⟩, ?_, ?_⟩
  · intro s d
    rw [ofCompact?_eq_some_iff, and_comm]
  · exact fun _ _ plain plain' => (compact_inj plain plain').mp
  · intro s
    rw [Option.eq_none_iff_forall_ne_some]
    simp only [ne_eq, ofCompact?_eq_some_iff, not_and']
  · intro s d read
    obtain ⟨rfl, _⟩ := ofCompact?_eq_some_iff.mp read
    have other := ofCanonical?_compact d
    exact ⟨other, by rw [ofText?, other, Option.orElse_none, read]⟩
  · intro d signed
    rw [ofText?, ofCanonical?_compact, Option.orElse_none, ofCompact?_compact_of_signed signed]

/-- The leap day of the year 0, and the last day before that year. -/
theorem forms_told_apart_around_year_zero :
    let leap : Date := (of? 0 2 29).getD .earliest
    let before : Date := (of? (-1) 12 31).getD .earliest
    ofCompact? "00000229" = some leap ∧ ofCanonical? "00000229" = none ∧ ofText? "00000229" = some leap ∧
      ofText? "-0001-12-31" = some before ∧ ofText? "-00011231" = none := by
  intro leap before
  obtain ⟨⟨canonical, _⟩, ⟨compact, _, _⟩, plain, signed⟩ := forms_told_apart
  have read : ofCompact? "00000229" = some leap := (compact _ leap).mpr ⟨by decide, by decide⟩
  have text : before.canonical = "-0001-12-31" ∧ before.compact = "-00011231" := by decide
  refine ⟨read, (plain _ leap read).1, (plain _ leap read).2, ?_, ?_⟩
  · rw [← text.1]
    exact canonical before
  · rw [← text.2]
    exact signed before (by decide)

end PriceHistory.Calendar.Date
