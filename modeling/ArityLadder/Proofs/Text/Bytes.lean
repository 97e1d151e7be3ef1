import ArityLadder.Sink

/-!
# Bytes of texts

The bytes of a text are those of its characters in turn.  An ASCII character takes the
single byte of its code, and no other character takes a byte below 128, so that the
bytes of ASCII characters can be found in a text without reading its characters.

Main results:

- Theorem `Sink.bytes_eq_flatMap`: the bytes of a text are those of its characters.
- Theorems `Text.utf8EncodeChar_of_lt` and `Text.le_of_mem_utf8EncodeChar`: the bytes of
  ASCII characters and of others.
- Theorem `Sink.count_bytes`: the byte of an ASCII character occurs as often as the
  character.
-/

namespace ArityLadder

namespace Text

/-! ## Bytes of characters -/

/-- An ASCII character takes the byte of its code. -/
theorem utf8EncodeChar_of_lt {c : Char} (hc : c.toNat < 128) :
    String.utf8EncodeChar c = [c.val.toUInt8] := by
  apply String.utf8EncodeChar_eq_singleton
  rw [Char.utf8Size_eq_one_iff, UInt32.le_iff_toNat_le]
  exact Nat.le_of_lt_succ hc

/-- The byte of an ASCII character is its code. -/
theorem toNat_toUInt8_of_lt {c : Char} (hc : c.toNat < 128) : c.val.toUInt8.toNat = c.toNat :=
  Nat.mod_eq_of_lt (Nat.lt_trans hc (by decide))

/-- A byte with a high bit is at least 128. -/
theorem le_toNat_or (a : UInt8) {b : UInt8} (hb : 128 ≤ b.toNat) : 128 ≤ (a ||| b).toNat := by
  rw [UInt8.toNat_or]
  exact Nat.le_trans hb Nat.right_le_or

/-- A character beyond ASCII takes bytes of at least 128 only. -/
theorem le_of_mem_utf8EncodeChar {c : Char} (hc : 128 ≤ c.toNat) {b : UInt8}
    (hb : b ∈ String.utf8EncodeChar c) : 128 ≤ b.toNat := by
  rcases Char.utf8Size_eq c with hsize | hsize | hsize | hsize
  · have hsmall := UInt32.le_iff_toNat_le.mp (Char.utf8Size_eq_one_iff.mp hsize)
    have hcode : c.toNat = c.val.toNat := rfl
    have hlimit : (127 : UInt32).toNat = 127 := rfl
    omega
  · rw [String.utf8EncodeChar_eq_cons_cons hsize] at hb
    simp only [List.mem_cons, List.not_mem_nil, or_false] at hb
    rcases hb with rfl | rfl <;> exact le_toNat_or _ (by decide)
  · rw [String.utf8EncodeChar_eq_cons_cons_cons hsize] at hb
    simp only [List.mem_cons, List.not_mem_nil, or_false] at hb
    rcases hb with rfl | rfl | rfl <;> exact le_toNat_or _ (by decide)
  · rw [String.utf8EncodeChar_eq_cons_cons_cons_cons hsize] at hb
    simp only [List.mem_cons, List.not_mem_nil, or_false] at hb
    rcases hb with rfl | rfl | rfl | rfl <;> exact le_toNat_or _ (by decide)

/-- The byte of an ASCII character occurs in that character only. -/
theorem mem_utf8EncodeChar_iff {c d : Char} (hc : c.toNat < 128) :
    c.val.toUInt8 ∈ String.utf8EncodeChar d ↔ c = d := by
  have hcode := toNat_toUInt8_of_lt hc
  constructor
  · intro hmem
    by_cases hd : d.toNat < 128
    · have hdcode := toNat_toUInt8_of_lt hd
      rw [utf8EncodeChar_of_lt hd, List.mem_singleton] at hmem
      rw [hmem] at hcode
      exact Char.toNat_inj.mp (hcode.symm.trans hdcode)
    · have hlarge := le_of_mem_utf8EncodeChar (by omega) hmem
      omega
  · rintro rfl
    rw [utf8EncodeChar_of_lt hc]
    exact List.mem_singleton_self _

end Text

namespace Sink

/-! ## Bytes of texts -/

/-- The bytes of a text are those of its characters in turn. -/
theorem bytes_eq_flatMap (text : String) :
    bytes text = text.toList.flatMap String.utf8EncodeChar := by
  rw [bytes, String.toUTF8_eq_toByteArray, ← String.utf8Encode_toList, List.utf8Encode,
    List.data_toByteArray]

/-- The byte of an ASCII character occurs as often as the character. -/
theorem count_bytes (text : String) {c : Char} (hc : c.toNat < 128) :
    (bytes text).count c.val.toUInt8 = text.toList.count c := by
  rw [bytes_eq_flatMap]
  induction text.toList with
  | nil => rfl
  | cons d cs ih =>
    rw [List.flatMap_cons, List.count_append, ih, List.count_cons, Nat.add_comm]
    by_cases hd : c = d
    · rw [← hd, Text.utf8EncodeChar_of_lt hc]
      simp
    · have hfree := mt (Text.mem_utf8EncodeChar_iff hc).mp hd
      rw [List.count_eq_zero_of_not_mem hfree]
      simp [Ne.symm hd]

/-- The byte of an ASCII character occurs exactly where the character does. -/
theorem mem_bytes_iff {text : String} {c : Char} (hc : c.toNat < 128) :
    c.val.toUInt8 ∈ bytes text ↔ c ∈ text.toList := by
  rw [← List.count_pos_iff, count_bytes text hc, List.count_pos_iff]

end Sink

end ArityLadder
