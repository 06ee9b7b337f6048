import PriceHistory.Text.Uppercase

/-!
What a text has in uppercase. No character is lost, and none below the letters comes in.
-/
namespace PriceHistory.Text

theorem upperChar_ne_nil (c : Char) : upperChar c ≠ [] := by
  unfold upperChar upperCode
  split <;> simp

/-- Where every character comes to some, a text does not get shorter. -/
theorem length_le_flatMap {α : Type} {form : Char → List α} (some : ∀ c, form c ≠ []) (cs : List Char) :
    cs.length ≤ (cs.flatMap form).length := by
  induction cs with
  | nil => exact Nat.le_refl _
  | cons c cs ih =>
    have first := List.length_pos_iff.mpr (some c)
    rw [List.flatMap_cons, List.length_append, List.length_cons]
    omega

/-- Every character has an uppercase. -/
theorem length_le_upper (cs : List Char) : cs.length ≤ (cs.flatMap upperChar).length :=
  length_le_flatMap upperChar_ne_nil cs

theorem upper_eq_empty_iff {s : String} : upper s = "" ↔ s = "" := by
  constructor
  · intro nothing
    have short := length_le_upper s.toList
    have empty : s.toList.flatMap upperChar = [] := by
      have chars := congrArg String.toList nothing
      rwa [upper, String.toList_ofList] at chars
    rw [empty] at short
    exact String.toList_eq_nil_iff.mp (List.length_eq_zero_iff.mp (Nat.le_zero.mp short))
  · rintro rfl
    rfl

set_option maxRecDepth 100000 in
private theorem caseBlocks_no_mark : (caseBlocks.all fun block => block.runs.all fun run =>
    run.tail.all (0x41 ≤ ·) && run.members.all fun n => 0x41 ≤ (n + run.shift).toNat) = true := by
  decide +kernel

theorem mem_upperCode {n m : Nat} (member : m ∈ upperCode n) : m = n ∨ 0x41 ≤ m := by
  unfold upperCode at member
  cases found : caseRun? n with
  | none =>
    rw [found] at member
    exact .inl (List.mem_singleton.mp member)
  | some run =>
    obtain ⟨block, inTable, inBlock, holds⟩ := caseRun?_eq_some found
    have above := List.all_eq_true.mp (List.all_eq_true.mp caseBlocks_no_mark block inTable) run inBlock
    simp only [Bool.and_eq_true, List.all_eq_true, decide_eq_true_eq] at above
    rw [found] at member
    rcases List.mem_cons.mp member with rfl | tail
    · exact .inr (above.2 n (CaseRun.mem_members holds))
    · exact .inr (above.1 m tail)

/-- A mark below the letters is in an uppercase text only where it is in the text. -/
theorem mem_of_mem_upper {mark : Char} (low : mark.toNat < 0x41) {s : String}
    (member : mark ∈ (upper s).toList) : mark ∈ s.toList := by
  rw [upper, String.toList_ofList] at member
  obtain ⟨c, inside, inUpper⟩ := List.mem_flatMap.mp member
  obtain ⟨m, code, rfl⟩ := List.mem_map.mp inUpper
  rcases mem_upperCode code with rfl | letter
  · rwa [Char.ofNat_toNat]
  · -- The code points of an uppercase are those of characters.
    rw [toNat_ofNat_of_fixed (isFixedCode_of_mem_upperCode c.valid code)] at low
    omega

end PriceHistory.Text
