/-!
# Numerals of fixed width

Reading a signed or an unsigned 64-bit integer from its decimal text: ASCII
digits behind at most one sign, and nothing else.  The text is judged from left
to right, and at one position a character that is no digit comes before a value
that grows too large.

Main results:

- Theorem `Decimal.accumulate_append_digit`: a digit within the limit extends the
  value read so far.
-/

namespace ArityLadder

namespace Decimal

/-! ## Faults of a numeral -/

/-- Why a text is no numeral of its type. -/
inductive NumeralFault where
  | empty
  | invalidDigit
  | tooLarge
  | tooSmall
deriving DecidableEq

/-- The wording of a fault. -/
def NumeralFault.message : NumeralFault → String
  | empty => "cannot parse integer from empty string"
  | invalidDigit => "invalid digit found in string"
  | tooLarge => "number too large to fit in target type"
  | tooSmall => "number too small to fit in target type"

/-! ## Reading digits -/

/-- The value of an ASCII digit. -/
def digitValue (c : Char) : Nat := c.toNat - '0'.toNat

/-- The value of `soFar` continued by the digits of a text, as long as it stays within `limit`. -/
def accumulate (limit : Nat) (beyond : NumeralFault) :
    Nat → List Char → Except NumeralFault Nat
  | soFar, [] => .ok soFar
  | soFar, c :: rest =>
    if c.isDigit then
      if 10 * soFar + digitValue c ≤ limit then
        accumulate limit beyond (10 * soFar + digitValue c) rest
      else .error beyond
    else .error .invalidDigit

/-- A digit within the limit extends the value read so far. -/
theorem accumulate_append_digit {limit : Nat} {beyond : NumeralFault} {soFar value : Nat}
    {text : List Char} {c : Char} (h : accumulate limit beyond soFar text = .ok value)
    (digit : c.isDigit = true) (fits : 10 * value + digitValue c ≤ limit) :
    accumulate limit beyond soFar (text ++ [c]) = .ok (10 * value + digitValue c) := by
  fun_induction accumulate limit beyond soFar text with
  | case1 => cases h; simp [accumulate, digit, fits]
  | case2 soFar d rest isDigit within ih => simp [accumulate, isDigit, within, ih h]
  | case3 => cases h
  | case4 => cases h

/-- The value of a run of digits, which must not be empty. -/
def magnitude (limit : Nat) (beyond : NumeralFault) : List Char → Except NumeralFault Nat
  | [] => .error .invalidDigit
  | digits => accumulate limit beyond 0 digits

/-- The integer that a text denotes, negative down to `-least` and positive up to `greatest`. -/
def readInt (least greatest : Nat) : List Char → Except NumeralFault Int
  | [] => .error .empty
  | '-' :: rest => (magnitude least .tooSmall rest).map fun n => -(n : Int)
  | '+' :: rest => (magnitude greatest .tooLarge rest).map Int.ofNat
  | text => (magnitude greatest .tooLarge text).map Int.ofNat

/-- The natural number that a text denotes, up to `greatest`. -/
def readNat (greatest : Nat) : List Char → Except NumeralFault Nat
  | [] => .error .empty
  | '+' :: rest => magnitude greatest .tooLarge rest
  | text => magnitude greatest .tooLarge text

/-- A signed 64-bit integer from its text. -/
def readInt64 (text : String) : Except NumeralFault Int64 :=
  (readInt 9223372036854775808 9223372036854775807 text.toList).map Int64.ofInt

/-- An unsigned 64-bit integer from its text. -/
def readUInt64 (text : String) : Except NumeralFault UInt64 :=
  (readNat 18446744073709551615 text.toList).map UInt64.ofNat

end Decimal

end ArityLadder
