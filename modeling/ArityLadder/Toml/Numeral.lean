import ArityLadder.Decimal.Real
import ArityLadder.Toml.Quote
import ArityLadder.Toml.Value

/-!
# Numerals

Integers and floating-point numbers as a TOML document writes them.  Underscores
may stand between digits, an integer has no leading zero unless it has a base
other than ten, and a number that its type cannot hold is kept as such.  In an
integer with underscores only the ends of a group are looked at: a numeral like
`1_6f` is read, and has no value.
-/

namespace ArityLadder

namespace Toml

/-! ## Runs of digits -/

/-- Whether a text is a run of digits with at most one underscore between two of them. -/
def isRun (isDigit : Char → Bool) : List Char → Bool
  | [] => false
  | [c] => isDigit c
  | c :: '_' :: rest => isDigit c && isRun isDigit rest
  | c :: rest => isDigit c && isRun isDigit rest

/-- Whether a text has no zero in front of another digit. -/
def isTrimmed : List Char → Bool
  | '0' :: rest => rest.isEmpty
  | _ => true

/-- Whether every underscore in a text that starts with a digit stands between two hexadecimal ones. -/
def isGrouped : List Char → Bool
  | c :: '_' :: d :: rest =>
    (hexValue? c).isSome && (hexValue? d).isSome && isGrouped (d :: rest)
  | [_, '_'] => false
  | _ :: rest => isGrouped rest
  | [] => true

/-- A text without its underscores. -/
def digitsOf (text : List Char) : List Char := text.filter (· ≠ '_')

/-! ## Integers -/

/-- An integer as a value, which must fit a 128-bit word with a sign or without. -/
def Value.ofInt (value : Int) : Value :=
  if -170141183460469231731687303715884105728 ≤ value ∧
      value ≤ 340282366920938463463374607431768211455 then .integer value
  else .beyond .integer

/-- The value of hexadecimal, octal or binary digits. -/
def natOfBase (base : Nat) (digits : List Char) : Nat :=
  digits.foldl (fun value c => base * value + (hexValue? c).getD 0) 0

/-- An integer in a base, from behind its two letters; without a digit it has no value. -/
def integerInBase? (base : Nat) (text : List Char) : Option Value :=
  let isDigit (c : Char) : Bool := (hexValue? c).any (· < base)
  if text = [] then some (.beyond .integer)
  else if isRun isDigit text then some (.ofInt (natOfBase base (digitsOf text)))
  else none

/-- An integer in a base that its first two characters name. -/
def basedInteger? : List Char → Option Value
  | '0' :: 'x' :: text => integerInBase? 16 text
  | '0' :: 'o' :: text => integerInBase? 8 text
  | '0' :: 'b' :: text => integerInBase? 2 text
  | _ => none

/-! ## Floating-point numbers -/

/-- A floating-point number as a value, where infinity stands for one that is too large. -/
def Value.ofFloat (value : Float) : Value :=
  if value.isInf then .beyond .float else .float value

/-- Whether a text is an exponent, or nothing. -/
def isExponent : List Char → Bool
  | [] => true
  | c :: text =>
    (c == 'e' || c == 'E') &&
      match text with
      | '+' :: digits => isRun Char.isDigit digits
      | '-' :: digits => isRun Char.isDigit digits
      | digits => isRun Char.isDigit digits

/-- A character of a run of decimal digits. -/
def isRunChar (c : Char) : Bool := c.isDigit || c == '_'

/-- Whether a text is a fraction with an exponent or one of the two. -/
def isFloatTail : List Char → Bool
  | '.' :: text =>
    isRun Char.isDigit (text.takeWhile isRunChar) && isExponent (text.dropWhile isRunChar)
  | text => isExponent text

/-! ## Numbers -/

/-- A character that occurs in a floating-point number and in no integer. -/
def isFloatMark (c : Char) : Bool := c == '.' || c == 'e' || c == 'E'

/-- A floating-point number behind its sign. -/
def unsignedFloat? (negative : Bool) (text : List Char) : Option Value :=
  let whole := text.takeWhile isRunChar
  if isRun Char.isDigit whole && isFloatTail (text.dropWhile isRunChar) then
    (Decimal.readUnsigned? (digitsOf text)).map fun value =>
      .ofFloat (if negative then -value else value)
  else none

/-- The value of an integer in base ten, which only a text of digits has. -/
def unsignedInteger (negative : Bool) (text : List Char) : Value :=
  let digits := digitsOf text
  if digits.all Char.isDigit then
    let value := Decimal.natOfDigits digits
    .ofInt (if negative then -(value : Int) else value)
  else .beyond .integer

/-- A number in base ten behind its sign. -/
def unsigned? (negative : Bool) (text : List Char) : Option Value :=
  let digits := text.takeWhile Char.isDigit
  let rest := text.dropWhile Char.isDigit
  if digits = [] then none
  else if rest.any isFloatMark then
    if isTrimmed (text.takeWhile isRunChar) then unsignedFloat? negative text else none
  else if isTrimmed (text.takeWhile isRunChar) ∧
      (rest = [] ∨ rest.head? = some '_' ∧ isGrouped text ∧ ' ' ∉ rest) then
    some (unsignedInteger negative text)
  else none

/-- Infinity or no number at all, behind its sign. -/
def nonFinite? (negative : Bool) (text : List Char) : Option Value :=
  if text = ['i', 'n', 'f'] then some (.float (if negative then -1.0 / 0.0 else 1.0 / 0.0))
  else if text = ['n', 'a', 'n'] then some (.float (0.0 / 0.0))
  else none

/-- A number behind its sign. -/
def signed? (negative : Bool) (text : List Char) : Option Value :=
  (nonFinite? negative text).or (unsigned? negative text)

/-- The number that a text denotes. -/
def number? : List Char → Option Value
  | '+' :: text => signed? false text
  | '-' :: text => signed? true text
  | text => (basedInteger? text).or (signed? false text)

end Toml

end ArityLadder
