import ArityLadder.Decimal.Numeral

/-!
# Written numerals

The decimal text of a number consists of digits, has no leading zero unless it is
zero itself, and is read back as the number by the readers of fixed width.

Main results:

- Theorem `Decimal.eq_of_repr_eq`: a decimal text determines its number.
- Theorem `Decimal.number?_repr`: a number of any size is read back from its decimal text.
- Theorem `Decimal.accumulate_toDigits`: the digits of a number within a limit are
  read as the number.
- Theorems `Decimal.readInt64_repr` and `Decimal.readUInt64_repr`: every 64-bit
  integer is read back from its decimal text.
-/

namespace ArityLadder

namespace Decimal

/-! ## The digits of a number -/

/-- Every character of a decimal text is a digit. -/
theorem isDigit_of_mem_toDigits {n : Nat} {c : Char} (hc : c ∈ Nat.toDigits 10 n) :
    c.isDigit = true :=
  Nat.isDigit_of_mem_toDigits (by decide) (by decide) hc

/-- A decimal text starts with a digit. -/
theorem exists_toDigits_eq_cons (n : Nat) :
    ∃ c rest, Nat.toDigits 10 n = c :: rest ∧ c.isDigit = true := by
  cases hdigits : Nat.toDigits 10 n with
  | nil => exact absurd hdigits Nat.toDigits_ne_nil
  | cons c rest =>
    have hc : c ∈ Nat.toDigits 10 n := by
      rw [hdigits]
      exact List.mem_cons_self
    exact ⟨c, rest, rfl, isDigit_of_mem_toDigits hc⟩

/-- The decimal text of a number above zero does not start with a zero. -/
theorem head?_toDigits_ne_zero {n : Nat} (hn : 0 < n) :
    (Nat.toDigits 10 n).head? ≠ some '0' := by
  induction n using Nat.strongRecOn with
  | ind n ih =>
    by_cases hsmall : n < 10
    · rw [Nat.toDigits_of_lt_base hsmall]
      simp only [List.head?_cons, ne_eq, Option.some.injEq, Nat.digitChar_eq_zero]
      omega
    · have hbase : 10 ≤ n := by omega
      have hfront := ih (n / 10) (by omega) (by omega)
      obtain ⟨c, rest, hdigits, -⟩ := exists_toDigits_eq_cons (n / 10)
      rw [hdigits] at hfront
      rw [Nat.toDigits_of_base_le (by decide) hbase, hdigits]
      exact hfront

/-- A decimal text determines its number. -/
theorem eq_of_repr_eq {m n : Nat} (hrepr : m.repr = n.repr) : m = n := by
  have hdigits := congrArg String.toList hrepr
  rw [Nat.toList_repr, Nat.toList_repr] at hdigits
  rw [← Nat.ofDigitChars_ten_toDigits (n := m), hdigits, Nat.ofDigitChars_ten_toDigits]

/-! ## Reading digits back -/

/-- The number of a text that consists of digits. -/
def number? (text : String) : Option Nat :=
  if text ≠ "" ∧ text.toList.all Char.isDigit = true then
    some (Nat.ofDigitChars 10 text.toList 0)
  else none

/-- A number of any size is read back from its decimal text. -/
@[simp]
theorem number?_repr (n : Nat) : number? n.repr = some n := by
  have hne : n.repr ≠ "" := by
    rw [ne_eq, ← String.toList_eq_nil_iff, Nat.toList_repr]
    exact Nat.toDigits_ne_nil
  have hdigits : n.repr.toList.all Char.isDigit = true := by
    rw [Nat.toList_repr, List.all_eq_true]
    exact fun c hc => isDigit_of_mem_toDigits hc
  rw [number?, if_pos ⟨hne, hdigits⟩, Nat.toList_repr, Nat.ofDigitChars_ten_toDigits]

/-- The value of the digit of a number below ten. -/
theorem digitValue_digitChar {n : Nat} (hn : n < 10) : digitValue n.digitChar = n :=
  Nat.toNat_digitChar_sub_48_of_lt_ten hn

/-- The digits of a number within the limit are read as the number. -/
theorem accumulate_toDigits {limit : Nat} (beyond : NumeralFault) {n : Nat} (hn : n ≤ limit) :
    accumulate limit beyond 0 (Nat.toDigits 10 n) = .ok n := by
  induction n using Nat.strongRecOn with
  | ind n ih =>
    by_cases hsmall : n < 10
    · have hvalue := digitValue_digitChar hsmall
      rw [Nat.toDigits_of_lt_base hsmall]
      simp [accumulate, hsmall, hvalue, hn]
    · have hbase : 10 ≤ n := by omega
      have hlast : n % 10 < 10 := by omega
      have hvalue := digitValue_digitChar hlast
      have hfront := ih (n / 10) (by omega) (by omega)
      rw [Nat.toDigits_of_base_le (by decide) hbase]
      rw [accumulate_append_digit hfront (by simp [hlast]) (by rw [hvalue]; omega)]
      rw [hvalue, Nat.div_add_mod]

/-- The digits of a number within the limit are its magnitude. -/
theorem magnitude_toDigits {limit : Nat} (beyond : NumeralFault) {n : Nat} (hn : n ≤ limit) :
    magnitude limit beyond (Nat.toDigits 10 n) = .ok n := by
  obtain ⟨c, rest, hdigits, -⟩ := exists_toDigits_eq_cons n
  have hread := accumulate_toDigits beyond hn
  rw [hdigits] at hread ⊢
  exact hread

/-- A text that starts with a digit is read without a sign. -/
theorem readInt_of_isDigit {least greatest : Nat} {c : Char} {rest : List Char}
    (hc : c.isDigit = true) :
    readInt least greatest (c :: rest) =
      (magnitude greatest .tooLarge (c :: rest)).map Int.ofNat := by
  have hminus : c ≠ '-' := by rintro rfl; simp at hc
  have hplus : c ≠ '+' := by rintro rfl; simp at hc
  simp [readInt, hminus, hplus]

/-- A text that starts with a digit is read without a sign. -/
theorem readNat_of_isDigit {greatest : Nat} {c : Char} {rest : List Char}
    (hc : c.isDigit = true) :
    readNat greatest (c :: rest) = magnitude greatest .tooLarge (c :: rest) := by
  have hplus : c ≠ '+' := by rintro rfl; simp at hc
  simp [readNat, hplus]

/-! ## Numbers of fixed width -/

/-- The characters of the decimal text of an integer below zero. -/
theorem toList_repr_negSucc (n : Nat) :
    (Int.repr (Int.negSucc n)).toList = '-' :: Nat.toDigits 10 (n + 1) := by
  simp [Int.repr]

/-- The characters of the decimal text of an integer from zero on. -/
theorem toList_repr_ofNat (n : Nat) : (Int.repr (Int.ofNat n)).toList = Nat.toDigits 10 n := by
  simp [Int.repr]

/-- An integer within its limits is read back from its decimal text. -/
theorem readInt_repr {least greatest : Nat} {value : Int} (hleast : -(least : Int) ≤ value)
    (hgreatest : value ≤ greatest) :
    readInt least greatest (Int.repr value).toList = .ok value := by
  cases value with
  | ofNat n =>
    obtain ⟨c, rest, hdigits, hc⟩ := exists_toDigits_eq_cons n
    have hn : n ≤ greatest := by simpa using hgreatest
    have hread := magnitude_toDigits .tooLarge hn
    rw [hdigits] at hread
    rw [toList_repr_ofNat, hdigits, readInt_of_isDigit hc, hread]
    rfl
  | negSucc n =>
    have hn : n + 1 ≤ least := by omega
    rw [toList_repr_negSucc]
    simp only [readInt, magnitude_toDigits .tooSmall hn]
    rfl

/-- A signed 64-bit integer is read back from its decimal text. -/
theorem readInt64_repr (value : Int64) : readInt64 (toString value.toInt) = .ok value := by
  have hleast := value.le_toInt
  have hgreatest := value.toInt_lt
  rw [Int.toString_eq_repr, readInt64, readInt_repr (by omega) (by omega)]
  simp [Except.map]

/-- An unsigned 64-bit integer is read back from its decimal text. -/
theorem readUInt64_repr (value : UInt64) : readUInt64 (toString value.toNat) = .ok value := by
  obtain ⟨c, rest, hdigits, hc⟩ := exists_toDigits_eq_cons value.toNat
  have hlimit : value.toNat ≤ 18446744073709551615 := by
    have := value.toNat_lt
    omega
  have hread := magnitude_toDigits .tooLarge hlimit
  rw [hdigits] at hread
  rw [readUInt64, Nat.toString_eq_repr, Nat.toList_repr, hdigits, readNat_of_isDigit hc, hread]
  simp [Except.map]

end Decimal

end ArityLadder
