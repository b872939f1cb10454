import HtmlTemplate.Text.Utf8

/-!
The bytes that texts are written as are their UTF-8 form.
-/

namespace HtmlTemplate.Text.Utf8

/-- The bytes of a character are those of its UTF-8 form. -/
theorem encodeChar_eq (c : Char) : encodeChar c = String.utf8EncodeChar c := by
  have bound : c.toNat < 0x110000 := by
    rcases c.valid with low | ⟨-, high⟩
    · exact Nat.lt_trans low (by decide)
    · exact high
  -- a leading byte holds what is left of the number, which is less than its share of bits
  simp only [encodeChar, String.utf8EncodeChar, ← Char.toNat.eq_1]
  split
  next => rfl
  next =>
    split
    next two =>
      have lead : c.toNat / 64 % 32 = c.toNat / 64 := Nat.mod_eq_of_lt (by omega)
      simp [lead, Nat.add_comm]
    next =>
      split
      next three =>
        have lead : c.toNat / 4096 % 16 = c.toNat / 4096 := Nat.mod_eq_of_lt (by omega)
        simp [lead, Nat.add_comm]
      next =>
        have lead : c.toNat / 262144 % 8 = c.toNat / 262144 := Nat.mod_eq_of_lt (by omega)
        simp [lead, Nat.add_comm]

theorem toByteArray_encode (s : String) : (encode s.toList).toByteArray = s.toUTF8 := by
  have chars : encodeChar = String.utf8EncodeChar := funext encodeChar_eq
  have bytes := String.toByteArray_ofList (l := s.toList)
  rw [String.ofList_toList] at bytes
  rw [String.toUTF8_eq_toByteArray, bytes, encode, chars, List.utf8Encode]

end HtmlTemplate.Text.Utf8
