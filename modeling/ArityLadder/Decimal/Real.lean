/-!
# Reading doubles

The double nearest to a decimal text: digits with an optional point and an
optional exponent, or one of the words for infinity and for no number.
-/

namespace ArityLadder

namespace Decimal

/-- The double nearest to `digits * 10 ^ exponent`.

A decimal of more than 310 places is beyond every double, and one whose first
digit stands more than 330 places behind the point is nearest to zero. -/
def toFloat (digits : Nat) (exponent : Int) : Float :=
  let top := ((Nat.toDigits 10 digits).length : Int) + exponent
  if digits = 0 ∨ top < -330 then 0.0
  else if 310 < top then 1.0 / 0.0
  else Float.ofScientific digits (exponent < 0) exponent.natAbs

/-- The value of a run of decimal digits. -/
def natOfDigits (digits : List Char) : Nat := Nat.ofDigitChars 10 digits 0

/-- The exponent that a text writes, zero where it writes none. -/
def readExponent? : List Char → Option Int
  | [] => some 0
  | c :: rest =>
    if c = 'e' ∨ c = 'E' then
      let digits (sign : Int) (ds : List Char) : Option Int :=
        if ds ≠ [] ∧ ds.all Char.isDigit then some (sign * natOfDigits ds) else none
      match rest with
      | '-' :: ds => digits (-1) ds
      | '+' :: ds => digits 1 ds
      | ds => digits 1 ds
    else none

/-- The double nearest to an unsigned decimal text. -/
def readUnsigned? (text : List Char) : Option Float :=
  let whole := text.takeWhile Char.isDigit
  let rest := text.dropWhile Char.isDigit
  let (places, rest) :=
    match rest with
    | '.' :: r => (r.takeWhile Char.isDigit, r.dropWhile Char.isDigit)
    | r => ([], r)
  if whole ++ places = [] then none
  else
    (readExponent? rest).map fun exponent =>
      toFloat (natOfDigits (whole ++ places)) (exponent - places.length)

/-- The double of an unsigned text, which may be a word in ASCII letters of either case. -/
def readMagnitude? (text : List Char) : Option Float :=
  let word := String.ofList (text.map Char.toLower)
  if word = "inf" ∨ word = "infinity" then some (1.0 / 0.0)
  else if word = "nan" then some (0.0 / 0.0)
  else readUnsigned? text

/-- The double nearest to a decimal text, behind at most one sign. -/
def readFloat? : List Char → Option Float
  | '-' :: rest => (readMagnitude? rest).map fun x => -x
  | '+' :: rest => readMagnitude? rest
  | text => readMagnitude? text

end Decimal

end ArityLadder
