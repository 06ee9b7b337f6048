import PriceHistory.Text.CaseTable

/-!
The uppercase of a text, character by character and in full: a character may become several.
Main statement: the uppercase of an uppercase text is that text.
-/
namespace PriceHistory.Text

/-- The run of a code point with an uppercase of its own. -/
def caseRun? (n : Nat) : Option CaseRun :=
  match caseBlocks.find? fun block => Nat.ble n block.last with
  | none => none
  | some block =>
    match block.runs.find? fun run => Nat.ble n run.last with
    | none => none
    | some run => bif run.holds n then some run else none

/-- The code points of a character's uppercase; a character with no uppercase of its own stays. -/
def upperCode (n : Nat) : List Nat :=
  match caseRun? n with
  | some run => (n + run.shift).toNat :: run.tail
  | none => [n]

/-- The uppercase of a character. -/
def upperChar (c : Char) : List Char :=
  (upperCode c.toNat).map Char.ofNat

/-- The uppercase of a text. -/
def upper (s : String) : String :=
  String.ofList (s.toList.flatMap upperChar)

/-- A code point of a character that is its own uppercase. -/
def isFixedCode (n : Nat) : Bool :=
  (caseRun? n).isNone && decide n.isValidChar

theorem CaseRun.mem_members {run : CaseRun} {n : Nat} (h : run.holds n = true) :
    n ∈ run.members := by
  simp only [CaseRun.holds, Bool.and_eq_true, Nat.ble_eq] at h
  obtain ⟨⟨first, last⟩, steps⟩ := h
  have steps := Nat.eq_of_beq_eq_true steps
  have whole := Nat.div_add_mod (n - run.first) run.step
  rw [steps, Nat.mul_comm] at whole
  simp only [CaseRun.members, List.mem_map, List.mem_range]
  refine ⟨(n - run.first) / run.step, ?_, by omega⟩
  have := Nat.div_le_div_right (c := run.step) (show n - run.first ≤ run.last - run.first by omega)
  omega

theorem caseRun?_eq_some {n : Nat} {run : CaseRun} (h : caseRun? n = some run) :
    ∃ block ∈ caseBlocks, run ∈ block.runs ∧ run.holds n = true := by
  unfold caseRun? at h
  split at h
  · cases h
  next block found =>
    split at h
    · cases h
    next first searched =>
      cases holds : first.holds n with
      | false => simp [holds] at h
      | true =>
        simp only [holds, cond_true, Option.some.injEq] at h
        subst h
        exact ⟨block, List.mem_of_find?_eq_some found, List.mem_of_find?_eq_some searched, holds⟩

set_option maxRecDepth 100000 in
/-- Every character that the table leads to is its own uppercase. -/
private theorem caseBlocks_fixed : (caseBlocks.all fun block => block.runs.all fun run =>
    run.tail.all isFixedCode && run.members.all fun n => isFixedCode (n + run.shift).toNat) = true := by
  decide +kernel

theorem isFixedCode_of_mem_upperCode {n m : Nat} (valid : n.isValidChar) (h : m ∈ upperCode n) :
    isFixedCode m = true := by
  unfold upperCode at h
  cases found : caseRun? n with
  | none =>
    simp only [found, List.mem_singleton] at h
    subst h
    simp [isFixedCode, found, valid]
  | some run =>
    obtain ⟨block, inTable, inBlock, holds⟩ := caseRun?_eq_some found
    have fixed := List.all_eq_true.mp (List.all_eq_true.mp caseBlocks_fixed block inTable) run inBlock
    simp only [Bool.and_eq_true, List.all_eq_true] at fixed
    simp only [found, List.mem_cons] at h
    rcases h with rfl | h
    · exact fixed.2 n (CaseRun.mem_members holds)
    · exact fixed.1 m h

theorem toNat_ofNat_of_fixed {n : Nat} (h : isFixedCode n = true) : (Char.ofNat n).toNat = n := by
  simp only [isFixedCode, Bool.and_eq_true, decide_eq_true_eq] at h
  rw [Char.ofNat, dif_pos h.2]
  rfl

theorem upperChar_ofNat {n : Nat} (h : isFixedCode n = true) :
    upperChar (Char.ofNat n) = [Char.ofNat n] := by
  have code := toNat_ofNat_of_fixed h
  simp only [isFixedCode, Bool.and_eq_true, Option.isNone_iff_eq_none] at h
  simp [upperChar, upperCode, code, h.1]

theorem upperChar_of_mem {c d : Char} (h : d ∈ upperChar c) : upperChar d = [d] := by
  simp only [upperChar, List.mem_map] at h
  obtain ⟨n, member, rfl⟩ := h
  exact upperChar_ofNat (isFixedCode_of_mem_upperCode c.valid member)

@[simp] theorem upper_upper (s : String) : upper (upper s) = upper s := by
  have fixed : ∀ cs : List Char, (∀ c ∈ cs, upperChar c = [c]) → cs.flatMap upperChar = cs := by
    intro cs h
    induction cs with
    | nil => rfl
    | cons c cs ih =>
      rw [List.flatMap_cons, h c List.mem_cons_self, ih fun d member => h d (List.mem_cons_of_mem _ member)]
      rfl
  unfold upper
  rw [String.toList_ofList, fixed]
  intro d member
  obtain ⟨c, _, inUpper⟩ := List.mem_flatMap.mp member
  exact upperChar_of_mem inUpper

end PriceHistory.Text
