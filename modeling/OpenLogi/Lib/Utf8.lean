import Mathlib.Data.List.Basic
/-!
# Utf8 — bytes read as text that may be broken

Decoding replaces what is no character: each longest start of a character that the bytes break off, or a single byte
that starts none, becomes one replacement character.  What encodes a string decodes to that string.
-/
namespace OpenLogi
namespace Lib

/-- The bytes of a string. -/
def utf8Bytes (s : String) : List UInt8 := s.toUTF8.data.toList

theorem utf8Bytes_eq (s : String) : utf8Bytes s = s.toList.flatMap String.utf8EncodeChar := by
  have hbytes : s.toUTF8 = (s.toList.flatMap String.utf8EncodeChar).toByteArray := by
    conv_lhs => rw [← String.ofList_toList (s := s)]
    exact String.toByteArray_ofList
  rw [utf8Bytes, hbytes, List.toList_data_toByteArray]

/-- A byte that may follow the first one of a character. -/
def secondFits (first second : UInt8) : Bool :=
  if first = 0xe0 then 0xa0 ≤ second ∧ second ≤ 0xbf
  else if first = 0xed then 0x80 ≤ second ∧ second ≤ 0x9f
  else if first = 0xf0 then 0x90 ≤ second ∧ second ≤ 0xbf
  else if first = 0xf4 then 0x80 ≤ second ∧ second ≤ 0x8f
  else 0x80 ≤ second ∧ second ≤ 0xbf

/-- How many bytes the character has that `first` starts; one where it starts none. -/
def widthOf (first : UInt8) : Nat :=
  if 0xc2 ≤ first ∧ first ≤ 0xdf then 2
  else if 0xe0 ≤ first ∧ first ≤ 0xef then 3
  else if 0xf0 ≤ first ∧ first ≤ 0xf4 then 4
  else 1

/-- How many bytes one replacement character stands for. -/
def brokenLength : List UInt8 → Nat
  | first :: second :: rest =>
    if widthOf first = 1 ∨ secondFits first second = false then 1
    else min (widthOf first - 1) (2 + (rest.takeWhile fun byte => 0x80 ≤ byte && byte ≤ 0xbf).length)
  | _ => 1

theorem brokenLength_pos (bytes : List UInt8) : 0 < brokenLength bytes := by
  unfold brokenLength
  split
  · split
    · exact Nat.zero_lt_one
    · rename_i first second rest hfits
      have hwidth : 2 ≤ widthOf first := by
        have hone : widthOf first ≠ 1 := fun hone => hfits (.inl hone)
        unfold widthOf at hone ⊢
        split_ifs at hone ⊢ <;> simp_all
      omega
  · exact Nat.zero_lt_one

/-- `String::from_utf8_lossy`. -/
def lossyChars (bytes : List UInt8) : List Char :=
  match bytes with
  | [] => []
  | byte :: rest =>
    match (byte :: rest).toByteArray.utf8DecodeChar? 0 with
    | some c => c :: lossyChars ((byte :: rest).drop c.utf8Size)
    | none => Char.ofNat 0xfffd :: lossyChars ((byte :: rest).drop (brokenLength (byte :: rest)))
termination_by bytes.length
decreasing_by
  · have := c.utf8Size_pos
    simp only [List.length_drop, List.length_cons]
    omega
  · have := brokenLength_pos (byte :: rest)
    simp only [List.length_drop, List.length_cons]
    omega

def fromUtf8Lossy (bytes : List UInt8) : String := String.ofList (lossyChars bytes)

theorem lossyChars_encode (c : Char) (rest : List UInt8) :
    lossyChars (String.utf8EncodeChar c ++ rest) = c :: lossyChars rest := by
  have hdecode : (String.utf8EncodeChar c ++ rest).toByteArray.utf8DecodeChar? 0 = some c := by
    rw [List.toByteArray_append]
    exact ByteArray.utf8DecodeChar?_utf8EncodeChar_append
  have hdrop : (String.utf8EncodeChar c ++ rest).drop c.utf8Size = rest := by
    rw [← String.length_utf8EncodeChar c, List.drop_left]
  cases hbytes : String.utf8EncodeChar c ++ rest with
  | nil => exact absurd (List.append_eq_nil_iff.1 hbytes).1 String.utf8EncodeChar_ne_nil
  | cons byte bytes =>
    rw [hbytes] at hdecode hdrop
    rw [lossyChars, hdecode]
    dsimp only
    rw [hdrop]

theorem lossyChars_flatMap (chars : List Char) : lossyChars (chars.flatMap String.utf8EncodeChar) = chars := by
  induction chars with
  | nil => rw [List.flatMap_nil, lossyChars]
  | cons c chars ih => rw [List.flatMap_cons, lossyChars_encode, ih]

/-- **What encodes a string decodes to it.** -/
theorem fromUtf8Lossy_utf8Bytes (s : String) : fromUtf8Lossy (utf8Bytes s) = s := by
  rw [fromUtf8Lossy, utf8Bytes_eq, lossyChars_flatMap, String.ofList_toList]

theorem zero_mem_encode {c : Char} (h : 0 ∈ String.utf8EncodeChar c) : c = Char.ofNat 0 := by
  have hor : ∀ a b : UInt8, b ≠ 0 → (0 : UInt8) ≠ a ||| b := fun a b hb h => hb (UInt8.or_eq_zero_iff.1 h.symm).2
  rcases Nat.lt_or_ge 1 c.utf8Size with hsize | hsize
  · exfalso
    rw [String.utf8EncodeChar_eq_utf8EncodeCharFast] at h
    have hlength := String.length_utf8EncodeChar c
    rw [String.utf8EncodeChar_eq_utf8EncodeCharFast] at hlength
    unfold String.utf8EncodeCharFast at h hlength
    dsimp only at h hlength
    split_ifs at h hlength
    · simp only [List.length_singleton] at hlength
      omega
    all_goals simp only [List.mem_cons, List.not_mem_nil, or_false] at h
    · rcases h with h | h <;> exact hor _ _ (by decide) h
    · rcases h with h | h | h <;> exact hor _ _ (by decide) h
    · rcases h with h | h | h | h <;> exact hor _ _ (by decide) h
  · have hone : c.utf8Size = 1 := Nat.le_antisymm hsize c.utf8Size_pos
    rw [String.utf8EncodeChar_eq_singleton hone, List.mem_singleton] at h
    have hsmall := Char.utf8Size_eq_one_iff.1 hone
    have hmod := congrArg UInt8.toNat h
    rw [UInt32.toNat_toUInt8] at hmod
    have hle : c.val.toNat ≤ 127 := hsmall
    have hzero : c.val.toNat = 0 := by
      rw [Nat.mod_eq_of_lt (by omega)] at hmod
      exact hmod.symm
    exact Char.ext (UInt32.toNat_inj.1 hzero)

/-- Only the zero character has a zero byte. -/
theorem zero_mem_utf8Bytes {s : String} (h : 0 ∈ utf8Bytes s) : Char.ofNat 0 ∈ s.toList := by
  rw [utf8Bytes_eq] at h
  obtain ⟨c, hc, hzero⟩ := List.mem_flatMap.1 h
  exact zero_mem_encode hzero ▸ hc

end Lib
end OpenLogi
