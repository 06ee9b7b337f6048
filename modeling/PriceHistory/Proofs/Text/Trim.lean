import Mathlib.Data.List.TakeWhile
import PriceHistory.Proofs.Text.Uppercase
import PriceHistory.Text.Blank

/-!
Texts without the blanks at their ends, and in uppercase. Trimming leaves nothing exactly of a blank text.
Uppercase loses no character, so a text that has blanks at its ends is told from the one without them in
uppercase too.
-/
namespace PriceHistory.Text

theorem exists_dropBlanks (cs : List Char) :
    ∃ front, cs = front ++ dropBlanks cs ∧ ∀ c ∈ front, isBlank c = true :=
  ⟨cs.takeWhile isBlank, List.takeWhile_append_dropWhile.symm,
    fun _ member => List.mem_takeWhile_imp member⟩

/-- What stands before a trimmed text and behind it is blank. -/
theorem exists_trim (s : String) : ∃ front back, s.toList = front ++ (trim s).toList ++ back ∧
    (∀ c ∈ front, isBlank c = true) ∧ ∀ c ∈ back, isBlank c = true := by
  obtain ⟨front, first, blank⟩ := exists_dropBlanks s.toList
  obtain ⟨back, last, blank'⟩ := exists_dropBlanks (dropBlanks s.toList).reverse
  refine ⟨front, back.reverse, ?_, blank, fun c member => blank' c (List.mem_reverse.mp member)⟩
  have turned := congrArg List.reverse last
  rw [List.reverse_reverse, List.reverse_append] at turned
  rw [trim, String.toList_ofList, List.append_assoc, ← turned]
  exact first

/-- Blanks before and behind a text that has none at its ends are all that trimming drops. -/
theorem toList_trim {s : String} {front core back : List Char} (parts : s.toList = front ++ core ++ back)
    (blank : ∀ c ∈ front, isBlank c = true) (blank' : ∀ c ∈ back, isBlank c = true) (nonempty : core ≠ [])
    (starts : ∀ c ∈ core.head?, isBlank c = false) (ends : ∀ c ∈ core.getLast?, isBlank c = false) :
    (trim s).toList = core := by
  have kept {cs : List Char} (rest : List Char) (some : cs ≠ []) (first : ∀ c ∈ cs.head?, isBlank c = false) :
      dropBlanks (cs ++ rest) = cs ++ rest := by
    obtain ⟨c, cs, rfl⟩ := List.exists_cons_of_ne_nil some
    have visible := first c rfl
    simp [dropBlanks, visible]
  have fromFront : dropBlanks s.toList = core ++ back := by
    rw [parts, List.append_assoc]
    exact (List.dropWhile_append_of_pos blank).trans (kept back nonempty starts)
  have fromBack : dropBlanks (core ++ back).reverse = core.reverse := by
    rw [List.reverse_append]
    refine (List.dropWhile_append_of_pos fun c member => blank' c (List.mem_reverse.mp member)).trans ?_
    have last := kept [] (List.reverse_ne_nil_iff.mpr nonempty) (by rwa [List.head?_reverse])
    rwa [List.append_nil] at last
  rw [trim, String.toList_ofList, fromFront, fromBack, List.reverse_reverse]

/-- A text without blanks at its ends is kept. -/
theorem trim_of_visible {s : String} (some : s ≠ "") (starts : ∀ c ∈ s.toList.head?, isBlank c = false)
    (ends : ∀ c ∈ s.toList.getLast?, isBlank c = false) : trim s = s := by
  rw [← String.toList_inj]
  have parts : s.toList = [] ++ s.toList ++ [] := by rw [List.nil_append, List.append_nil]
  exact toList_trim parts (List.forall_mem_nil _) (List.forall_mem_nil _) (mt String.toList_eq_nil_iff.mp some)
    starts ends

theorem trim_eq_empty_iff {s : String} : trim s = "" ↔ Blank s := by
  obtain ⟨front, back, parts, blank, blank'⟩ := exists_trim s
  constructor
  · intro nothing c member
    rw [parts, nothing] at member
    rcases List.mem_append.mp member with first | last
    · exact blank c (by simpa using first)
    · exact blank' c last
  · intro all
    have none : dropBlanks s.toList = [] := by
      rw [dropBlanks, List.dropWhile_eq_nil_iff]
      exact all
    rw [trim, none]
    rfl

/-- Blanks at the ends of a text show in its uppercase. -/
theorem upper_trim_eq_iff {s : String} : upper (trim s) = upper s ↔ trim s = s := by
  refine ⟨fun same => ?_, congrArg upper⟩
  obtain ⟨front, back, parts, _, _⟩ := exists_trim s
  have chars := congrArg String.toList same
  rw [upper, upper, String.toList_ofList, String.toList_ofList, parts, List.flatMap_append,
    List.flatMap_append] at chars
  -- The two texts are equally long in uppercase, so nothing stands before the trimmed one or behind it.
  have lengths := congrArg List.length chars
  simp only [List.length_append] at lengths
  have before := length_le_upper front
  have behind := length_le_upper back
  have none : front = [] := List.length_eq_zero_iff.mp (by omega)
  have none' : back = [] := List.length_eq_zero_iff.mp (by omega)
  rw [none, none', List.nil_append, List.append_nil] at parts
  exact (String.toList_inj.mp parts).symm

end PriceHistory.Text
