import Mathlib.Data.List.Infix
import PriceHistory.Proofs.Text.Digits
import PriceHistory.Proofs.Web.Form
import PriceHistory.Web.Path

/-!
Paths that are read as they are written. A segment with nothing in it that parts segments, and that is no
dots, stays in its place, and its characters come back from their encoded form where no percent sign in it
already has two digits behind it.
-/
namespace PriceHistory.Web

/-! ### Encoded segments -/

/-- Has a text no percent sign with two hexadecimal digits behind it? -/
def Literal (cs : List Char) : Prop :=
  ∀ a b, ['%', a, b] <:+: cs → hexValue? a = none ∨ hexValue? b = none

theorem Literal.of_cons {c : Char} {cs : List Char} (literal : Literal (c :: cs)) : Literal cs :=
  fun a b inside => literal a b (inside.trans (List.suffix_cons c cs).isInfix)

theorem literal_of_not_mem {cs : List Char} (plain : '%' ∉ cs) : Literal cs :=
  fun _ _ inside => absurd (inside.subset List.mem_cons_self) plain

/-- A percent sign that is not followed by two digits stands for itself. -/
theorem percentDecode_percent {cs : List Char}
    (alone : ∀ a b rest, cs = a :: b :: rest → hexValue? a = none ∨ hexValue? b = none) :
    percentDecode ('%' :: cs) = 0x25 :: percentDecode cs := by
  match cs with
  | [] => rfl
  | [a] => rfl
  | a :: b :: rest =>
    rw [percentDecode]
    rcases alone a b rest rfl with first | second
    · rw [first]
    · rw [second]
      cases hexValue? a <;> rfl

theorem exists_percentChar_eq_cons (c : Char) : ∃ digits, percentChar c = '%' :: digits := by
  unfold percentChar
  cases bytes : String.utf8EncodeChar c with
  | nil => exact absurd bytes (utf8EncodeChar_ne_nil c)
  | cons b bytes => exact ⟨_, rfl⟩

/-- An encoded text starts with a digit only where the text does. -/
theorem percentEncode_eq_cons {set : Char → Bool} {cs : List Char} {a : Char} {rest : List Char}
    (starts : percentEncode set cs = a :: rest) (digit : hexValue? a ≠ none) :
    ∃ more, cs = a :: more ∧ rest = percentEncode set more := by
  cases cs with
  | nil => cases starts
  | cons c more =>
    rw [percentEncode, List.flatMap_cons] at starts
    split at starts
    · obtain ⟨digits, sign⟩ := exists_percentChar_eq_cons c
      rw [sign] at starts
      cases (List.cons.inj starts).1
      exact absurd rfl digit
    · obtain ⟨rfl, rfl⟩ := List.cons.inj starts
      exact ⟨more, rfl, rfl⟩

/-- A literal text comes back from its encoded form, whatever characters are encoded. -/
theorem percentDecode_percentEncode (set : Char → Bool) {cs : List Char} (literal : Literal cs) :
    percentDecode (percentEncode set cs) = cs.flatMap String.utf8EncodeChar := by
  induction cs with
  | nil => rfl
  | cons c cs ih =>
    have later := ih literal.of_cons
    rw [percentEncode, List.flatMap_cons, List.flatMap_cons, ← later]
    split
    · exact percentDecode_percentChar c _
    · by_cases sign : c = '%'
      · subst sign
        refine percentDecode_percent fun a b rest starts => ?_
        -- Two digits behind the sign would stand there in the text itself.
        by_contra digits
        obtain ⟨first, second⟩ := not_or.mp digits
        obtain ⟨more, rfl, behind⟩ := percentEncode_eq_cons starts first
        obtain ⟨more, rfl, _⟩ := percentEncode_eq_cons behind.symm second
        exact digits (literal a b ⟨[], more, rfl⟩)
      · exact percentDecode_cons sign _

/-- Does an encoded segment stand for a text? -/
def StandsFor (segment text : String) : Prop :=
  utf8Text? (percentDecode segment.toList) = some text

/-- The form in which a path writes a segment. -/
def encodedSegment (text : String) : String :=
  String.ofList (percentEncode pathSet text.toList)

theorem standsFor_encodedSegment {text : String} (literal : Literal text.toList) :
    StandsFor (encodedSegment text) text := by
  rw [StandsFor, encodedSegment, String.toList_ofList, percentDecode_percentEncode pathSet literal,
    utf8Text?_utf8Encode]

/-- Characters that a path encodes, save those of percent-encoding itself, are not in an encoded segment, nor
are others that are not in the text. -/
theorem not_mem_encodedSegment {mark : Char} {text : String} (noSign : mark ≠ '%')
    (noDigit : hexValue? mark = none)
    (absent : pathSet mark = true ∨ mark ∉ text.toList) : mark ∉ (encodedSegment text).toList := by
  rw [encodedSegment, String.toList_ofList]
  intro member
  obtain ⟨c, inside, written⟩ := List.mem_flatMap.mp member
  split at written
  · exact ne_of_mem_percentChar written noSign noDigit rfl
  next kept =>
    obtain rfl := List.mem_singleton.mp written
    rcases absent with encoded | absent
    · exact kept encoded
    · exact absent inside

/-- A text without characters that a path encodes is written as it is. -/
theorem encodedSegment_of_plain {text : String} (plain : ∀ c ∈ text.toList, pathSet c = false) :
    encodedSegment text = text := by
  have kept : percentEncode pathSet text.toList = text.toList := by
    rw [percentEncode, List.flatMap_congr (g := fun c => [c]) fun c member => by simp [plain c member],
      List.flatMap_singleton']
  rw [encodedSegment, kept, String.ofList_toList]

theorem pathSet_of_isDigit {c : Char} (digit : c.isDigit = true) : pathSet c = false := by
  have range := Text.isDigit_iff.mp digit
  simp only [pathSet, controlSet, Bool.or_eq_false_iff, decide_eq_false_iff_not, beq_eq_false_iff_ne]
  and_intros
  · omega
  · omega
  all_goals
    rintro rfl
    cases digit

namespace Path

/-- Does a character stay where it is within a part of a URL? The others part a URL, or are dropped. -/
def Inner (c : Char) : Prop :=
  c ∉ ['/', '\\', '?', '#', '\t', '\n', '\r']

instance (c : Char) : Decidable (Inner c) :=
  inferInstanceAs (Decidable (_ ∉ _))

theorem Inner.not_isSlash {c : Char} (inner : Inner c) : isSlash true c = false := by
  simp_all [Inner, isSlash]

theorem Inner.ne {c mark : Char} (inner : Inner c) (outer : ¬Inner mark) : c ≠ mark := by
  rintro rfl
  exact outer inner

/-- A segment that a path keeps in its place. -/
structure Kept (segment : List Char) : Prop where
  inner : ∀ c ∈ segment, Inner c
  noDot : isDot segment = false
  noDots : isDoubleDot segment = false

instance (segment : List Char) : Decidable (Kept segment) :=
  -- Over the segment's characters, not over all characters.
  let _ : Decidable (∀ c ∈ segment, Inner c) := List.decidableBAll Inner segment
  decidable_of_iff ((∀ c ∈ segment, Inner c) ∧ isDot segment = false ∧ isDoubleDot segment = false)
    ⟨fun ⟨inner, noDot, noDots⟩ => ⟨inner, noDot, noDots⟩, fun kept => ⟨kept.1, kept.2, kept.3⟩⟩

/-- Digits are kept. -/
theorem Kept.of_digits {segment : List Char} (digits : ∀ c ∈ segment, c.isDigit = true) : Kept segment := by
  have lower : segment.map Char.toLower = segment := by
    refine (List.map_congr_left fun c member => ?_).trans (List.map_id _)
    have range := Text.isDigit_iff.mp (digits c member)
    have noLetter : ¬(c.val ≥ 'A'.val ∧ c.val ≤ 'Z'.val) := by
      rintro ⟨above, _⟩
      have : 65 ≤ c.toNat := UInt32.le_iff_toNat_le.mp above
      omega
    exact dif_neg noLetter
  have other (dots : String) (mark : ∃ c ∈ dots.toList, c.isDigit = false) :
      (String.ofList (segment.map Char.toLower) == dots) = false := by
    obtain ⟨c, member, noDigit⟩ := mark
    rw [beq_eq_false_iff_ne, lower]
    rintro rfl
    rw [String.toList_ofList] at member
    cases noDigit.symm.trans (digits c member)
  refine ⟨fun c member => ?_, ?_, ?_⟩
  · intro listed
    simp only [List.mem_cons, List.not_mem_nil, or_false] at listed
    have digit := digits c member
    rcases listed with rfl | rfl | rfl | rfl | rfl | rfl | rfl <;> cases digit
  · simp only [isDot, other "." ⟨'.', by decide⟩, other "%2e" ⟨'%', by decide⟩, Bool.or_false]
  · simp only [isDoubleDot, other ".." ⟨'.', by decide⟩, other ".%2e" ⟨'.', by decide⟩,
      other "%2e." ⟨'.', by decide⟩, other "%2e%2e" ⟨'%', by decide⟩, Bool.or_false]

/-- Is a segment written without anything that ends it or the path? -/
def Whole (part : String) : Prop :=
  ∀ c ∈ part.toList, isSlash true c = false ∧ c ≠ '?'

theorem Kept.whole_encoded {part : String} (kept : Kept part.toList) : Whole (encodedSegment part) := by
  have absent {mark : Char} (noSign : mark ≠ '%') (noDigit : hexValue? mark = none) (outer : ¬Inner mark) :
      ∀ c ∈ (encodedSegment part).toList, c ≠ mark := by
    rintro c member rfl
    exact not_mem_encodedSegment noSign noDigit (.inr fun inside => outer (kept.inner c inside)) member
  intro c member
  have slash := absent (by decide) (by decide) (by decide : ¬Inner '/') c member
  have back := absent (by decide) (by decide) (by decide : ¬Inner '\\') c member
  exact ⟨by simp [isSlash, slash, back], absent (by decide) (by decide) (by decide) c member⟩

theorem Kept.whole {part : String} (kept : Kept part.toList) : Whole part := fun c member =>
  ⟨(kept.inner c member).not_isSlash, (kept.inner c member).ne (by decide)⟩

/-- Segments with a slash before each of them. -/
def slashed (parts : List String) : List Char :=
  parts.flatMap fun part => '/' :: part.toList

theorem toList_text_segments (parts : List String) : (segments parts).text.toList = slashed parts := by
  rw [text, String.toList_join]
  simp [slashed, List.flatMap_def, Function.comp_def]

theorem slashed_append (front back : List String) : slashed (front ++ back) = slashed front ++ slashed back :=
  List.flatMap_append

theorem mem_slashed {parts : List String} {c : Char} (member : c ∈ slashed parts) :
    c = '/' ∨ ∃ part ∈ parts, c ∈ part.toList := by
  obtain ⟨part, among, inside⟩ := List.mem_flatMap.mp member
  rcases List.mem_cons.mp inside with slash | inside
  · exact .inl slash
  · exact .inr ⟨part, among, inside⟩

/-- Joined segments end as the last of them does, or in a slash. -/
theorem getLast?_slashed {parts : List String} {last : String} (found : parts.getLast? = some last) :
    (slashed parts).getLast? = some (last.toList.getLast?.getD '/') := by
  obtain ⟨front, rfl⟩ := List.getLast?_eq_some_iff.mp found
  simp [slashed, List.getLast?_cons]

theorem exists_slashed_eq_cons {parts : List String} (some : parts ≠ []) :
    ∃ rest, slashed parts = '/' :: rest := by
  obtain ⟨first, others, rfl⟩ := List.exists_cons_of_ne_nil some
  exact ⟨_, rfl⟩

/-- Parting at slashes gives the segments back. -/
theorem splitOnP_slashed {first : List Char} {parts : List String} (whole : ∀ c ∈ first, isSlash true c = false)
    (others : ∀ part ∈ parts, ∀ c ∈ part.toList, isSlash true c = false) :
    (first ++ slashed parts).splitOnP (isSlash true) = first :: parts.map String.toList := by
  induction parts generalizing first with
  | nil =>
    rw [slashed, List.flatMap_nil, List.append_nil]
    exact List.splitOnP_eq_singleton whole
  | cons part parts ih =>
    have later := ih (others part List.mem_cons_self) fun other member =>
      others other (List.mem_cons_of_mem part member)
    rw [slashed, List.flatMap_cons, List.cons_append, List.splitOnP_append_cons_of_forall_mem whole '/' rfl]
    exact congrArg (first :: ·) later

/-- Segments without slashes in them can be told from their joined text. -/
theorem slashed_inj {one other : List String} (whole : ∀ part ∈ one, Whole part)
    (whole' : ∀ part ∈ other, Whole part) : slashed one = slashed other ↔ one = other := by
  refine ⟨fun same => ?_, congrArg slashed⟩
  have split := splitOnP_slashed (List.forall_mem_nil _) fun part member c inside =>
    (whole part member c inside).1
  rw [List.nil_append, same] at split
  have lists := split.symm.trans
    (splitOnP_slashed (List.forall_mem_nil _) fun part member c inside => (whole' part member c inside).1)
  exact List.map_injective_iff.mpr (fun _ _ => String.toList_inj.mp) (List.cons.inj lists).2

/-- Segments without dots among them are followed one after another. -/
theorem resolve_kept (above : List String) {parts : List String} (kept : ∀ part ∈ parts, Kept part.toList) :
    resolve false above (parts.map String.toList) = above ++ parts.map encodedSegment := by
  induction parts generalizing above with
  | nil => simp [resolve]
  | cons part parts ih =>
    obtain ⟨_, noDot, noDots⟩ := kept part List.mem_cons_self
    have written : written false above part.toList = encodedSegment part := by
      simp [Path.written, encodedSegment]
    rw [List.map_cons, resolve, noDot, noDots, written,
      if_neg Bool.false_ne_true, if_neg Bool.false_ne_true,
      ih _ fun other member => kept other (List.mem_cons_of_mem part member)]
    simp

/-- A path of such segments is read as it is written. -/
theorem read_slashed {parts : List String} (kept : ∀ part ∈ parts, Kept part.toList)
    (some : parts ≠ []) : Path.read true (slashed parts) = .segments (parts.map encodedSegment) := by
  obtain ⟨first, rest, rfl⟩ := List.exists_cons_of_ne_nil some
  have whole (part : String) (member : part ∈ first :: rest) : ∀ c ∈ part.toList, isSlash true c = false :=
    fun c inside => ((kept part member).inner c inside).not_isSlash
  have split := splitOnP_slashed (whole first List.mem_cons_self) fun part member =>
    whole part (List.mem_cons_of_mem first member)
  have opened : afterSlash true (slashed (first :: rest)) = first.toList ++ slashed rest := rfl
  rw [Path.read, if_neg (by simp), opened, split]
  exact congrArg Path.segments (resolve_kept [] kept)

end Path

end PriceHistory.Web
