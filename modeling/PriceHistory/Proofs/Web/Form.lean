import PriceHistory.Web.Form

/-!
Encoded texts read back. Percent-encoded bytes give the bytes again whatever follows them, and a text in
form encoding gives the text, so no two texts are encoded alike. So do pairs.
-/
namespace PriceHistory.Web

theorem hexValue?_hexDigit {n : Nat} (small : n < 16) : hexValue? (hexDigit n) = some n := by
  revert n
  decide

theorem percentDecode_cons {c : Char} (plain : c ≠ '%') (rest : List Char) :
    percentDecode (c :: rest) = String.utf8EncodeChar c ++ percentDecode rest := by
  rw [percentDecode]
  rintro a b more rfl
  exact absurd rfl plain

theorem utf8EncodeChar_ne_nil (c : Char) : String.utf8EncodeChar c ≠ [] := by
  intro nothing
  have size := String.length_utf8EncodeChar c
  rw [nothing] at size
  exact absurd size.symm (Nat.ne_of_gt c.utf8Size_pos)

theorem percentDecode_percentByte (b : UInt8) (rest : List Char) :
    percentDecode (percentByte b ++ rest) = b :: percentDecode rest := by
  have range := b.toNat_lt
  have high : hexValue? (hexDigit (b.toNat / 16)) = some (b.toNat / 16) :=
    hexValue?_hexDigit (by omega)
  have low : hexValue? (hexDigit (b.toNat % 16)) = some (b.toNat % 16) := hexValue?_hexDigit (by omega)
  change percentDecode ('%' :: hexDigit (b.toNat / 16) :: hexDigit (b.toNat % 16) :: rest) = _
  rw [percentDecode, high, low]
  dsimp only
  rw [Nat.div_add_mod, UInt8.ofNat_toNat]

theorem percentDecode_percentChar (c : Char) (rest : List Char) :
    percentDecode (percentChar c ++ rest) = String.utf8EncodeChar c ++ percentDecode rest := by
  unfold percentChar
  induction String.utf8EncodeChar c with
  | nil => rfl
  | cons b bytes ih =>
    rw [List.flatMap_cons, List.append_assoc, percentDecode_percentByte, ih]
    rfl

/-- Only a percent sign and hexadecimal digits are written for a character. -/
theorem ne_of_mem_percentChar {c x mark : Char} (member : x ∈ percentChar c) (noSign : mark ≠ '%')
    (noDigit : hexValue? mark = none) : x ≠ mark := by
  rintro rfl
  obtain ⟨b, _, digit⟩ := List.mem_flatMap.mp member
  have range := b.toNat_lt
  have hex {n : Nat} (small : n < 16) : x ≠ hexDigit n := by
    rintro rfl
    cases noDigit.symm.trans (hexValue?_hexDigit small)
  simp only [percentByte, List.mem_cons, List.not_mem_nil, or_false] at digit
  rcases digit with sign | high | low
  · exact noSign sign
  · exact hex (by omega) high
  · exact hex (by omega) low

/-- The bytes of a text's characters are the bytes of the text. -/
theorem utf8Text?_utf8Encode (s : String) :
    utf8Text? (s.toList.flatMap String.utf8EncodeChar) = some s := by
  have bytes : (⟨(s.toList.flatMap String.utf8EncodeChar).toArray⟩ : ByteArray) = s.toByteArray := by
    rw [← String.utf8Encode_toList, List.utf8Encode]
    exact ByteArray.ext (List.data_toByteArray.symm)
  rw [utf8Text?, bytes, String.fromUTF8?, dif_pos s.isValidUTF8]
  rfl

namespace Form

/-- What is read in the place of a character before percent signs are. -/
private def plain (c : Char) : Char :=
  if c = '+' then ' ' else c

theorem map_plain_percentChar (c : Char) : (percentChar c).map plain = percentChar c := by
  refine (List.map_congr_left fun x member => ?_).trans (List.map_id _)
  exact if_neg (ne_of_mem_percentChar member (by decide) (by decide))

theorem percentDecode_encodeChar (c : Char) (rest : List Char) :
    percentDecode ((encodeChar c).map plain ++ rest) = String.utf8EncodeChar c ++ percentDecode rest := by
  unfold encodeChar
  split
  next space =>
    rw [space]
    exact percentDecode_cons (by decide) rest
  next other =>
    split
    next bare =>
      -- A character that stands for itself is none that decoding treats in another way.
      have named : c ≠ '+' ∧ c ≠ '%' := by
        constructor <;> rintro rfl <;> exact absurd bare (by decide)
      have kept : [c].map plain = [c] := congrArg (· :: []) (if_neg named.1)
      rw [kept]
      exact percentDecode_cons named.2 rest
    next => rw [map_plain_percentChar, percentDecode_percentChar]

theorem decode?_encode (s : String) : decode? (encode s) = some s := by
  have bytes (cs : List Char) : percentDecode ((cs.flatMap encodeChar).map plain) =
      cs.flatMap String.utf8EncodeChar := by
    induction cs with
    | nil => rfl
    | cons c cs ih => rw [List.flatMap_cons, List.map_append, percentDecode_encodeChar, ih, List.flatMap_cons]
  change utf8Text? (percentDecode ((s.toList.flatMap encodeChar).map plain)) = some s
  rw [bytes, utf8Text?_utf8Encode]

theorem encode_inj {a b : String} : encode a = encode b ↔ a = b := by
  constructor
  · -- A text is what its encoding is decoded to.
    intro same
    apply Option.some.inj
    rw [← decode?_encode a, same, decode?_encode]
  · exact congrArg encode

/-! ### Pairs -/

/-- No character that parts pairs, or a name from its value, is written for a text. -/
theorem not_mem_encode {mark c : Char} (parts : mark = '&' ∨ mark = '=') {s : String} (member : c ∈ encode s) :
    c ≠ mark := by
  obtain ⟨d, _, written⟩ := List.mem_flatMap.mp member
  unfold encodeChar at written
  split at written
  · rcases parts with rfl | rfl <;> simp_all
  · split at written
    next bare =>
      obtain rfl := List.mem_singleton.mp written
      rintro rfl
      rcases parts with rfl | rfl <;> exact absurd bare (by decide)
    next => rcases parts with rfl | rfl <;> exact ne_of_mem_percentChar written (by decide) (by decide)

theorem decodePair?_encodePair (pair : String × String) : decodePair? (encodePair pair) = some pair := by
  have name : ∀ c ∈ encode pair.1, decide (c ≠ '=') = true := fun c member => by
    simpa using not_mem_encode (.inr rfl) member
  have before : (encodePair pair).takeWhile (· ≠ '=') = encode pair.1 := by
    rw [encodePair, List.takeWhile_append_of_pos name]
    simp
  have after : ((encodePair pair).dropWhile (· ≠ '=')).drop 1 = encode pair.2 := by
    rw [encodePair, List.dropWhile_append_of_pos name]
    simp
  rw [decodePair?, before, after, decode?_encode, decode?_encode]
  rfl

/-- Encoded pairs are read back, in their order. -/
theorem decodePairs?_encodePairs (pairs : List (String × String)) :
    decodePairs? (encodePairs pairs) = some pairs := by
  have parted : ∀ written ∈ pairs.map encodePair, '&' ∉ written := by
    intro written among member
    obtain ⟨pair, _, rfl⟩ := List.mem_map.mp among
    rcases List.mem_append.mp member with name | value
    · exact not_mem_encode (.inl rfl) name rfl
    · rcases List.mem_cons.mp value with equals | value
      · cases equals
      · exact not_mem_encode (.inl rfl) value rfl
  have split : ((encodePairs pairs).splitOn '&').filter (· ≠ []) = pairs.map encodePair := by
    cases pairs with
    | nil => rfl
    | cons first rest =>
      rw [encodePairs, List.splitOn_intercalate '&' parted (by simp), List.filter_eq_self]
      intro written among
      obtain ⟨pair, _, rfl⟩ := List.mem_map.mp among
      simp [encodePair]
  rw [decodePairs?, split]
  clear parted split
  induction pairs with
  | nil => rfl
  | cons pair rest ih => rw [List.map_cons, List.mapM_cons, decodePair?_encodePair, ih]; rfl

theorem encodePairs_eq_nil_iff {pairs : List (String × String)} : encodePairs pairs = [] ↔ pairs = [] := by
  refine ⟨fun nothing => ?_, fun none => none ▸ rfl⟩
  have read := decodePairs?_encodePairs pairs
  rw [nothing] at read
  exact (Option.some.inj read).symm

end Form

end PriceHistory.Web
