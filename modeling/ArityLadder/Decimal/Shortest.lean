/-!
# The shortest decimal of a double

The decimal with the fewest digits that reads back as a given double, found in
exact arithmetic.  A positive double is a multiple of a power of two, and the
reals that round to it form an interval around it.  On the grid of decimals with
`n` digits only the two neighbours of the value can be nearest, so the first grid
with a neighbour inside the interval gives the answer: the nearer one, and the
upper one if both are equally near.
-/

namespace ArityLadder

namespace Decimal

/-! ## The reals that round to a double -/

/-- A positive double and the interval of reals that round to it, as multiples of `2 ^ scale`. -/
structure Rounding where
  lower : Nat
  value : Nat
  upper : Nat
  scale : Int
  /-- Whether the ends of the interval round to the double as well. -/
  closed : Bool

namespace Rounding

/-- The factor that a power of `base` puts over the fraction bar. -/
def numer (base : Nat) (exponent : Int) : Nat := Nat.pow base exponent.toNat

/-- The factor that a power of `base` puts under the fraction bar. -/
def denom (base : Nat) (exponent : Int) : Nat := Nat.pow base (-exponent).toNat

/-- The rounding interval of the double with the given bits, whose sign is ignored.

A double has 52 bits of fraction below a hidden bit and 11 bits of exponent.  The
unit is a quarter of the last place, because at a power of two the gap below a
double is half the gap above it. -/
def ofBits (bits : UInt64) : Rounding :=
  let hidden : Nat := 4503599627370496
  let fraction := bits.toNat % hidden
  let exponent := bits.toNat / hidden % 2048
  let mantissa := if exponent = 0 then fraction else fraction + hidden
  { lower := if fraction = 0 ∧ 1 < exponent then 4 * mantissa - 1 else 4 * mantissa - 2
    value := 4 * mantissa
    upper := 4 * mantissa + 2
    scale := ((max exponent 1 : Nat) : Int) - 1077
    closed := mantissa % 2 = 0 }

/-- Whether `digits * 10 ^ unit` reads back as the double. -/
def Fits (r : Rounding) (unit : Int) (digits : Nat) : Prop :=
  let grid := digits * numer 10 unit * denom 2 r.scale
  let place := denom 10 unit * numer 2 r.scale
  if r.closed then r.lower * place ≤ grid ∧ grid ≤ r.upper * place
  else r.lower * place < grid ∧ grid < r.upper * place

instance (r : Rounding) (unit : Int) (digits : Nat) : Decidable (r.Fits unit digits) := by
  unfold Fits
  dsimp only
  split <;> infer_instance

/-- The multiple of `10 ^ unit` next to the double that reads back as the double, if there is one. -/
def nearest? (r : Rounding) (unit : Int) : Option Nat :=
  let grid := numer 10 unit * denom 2 r.scale
  let place := denom 10 unit * numer 2 r.scale
  let below := r.value * place / grid
  if r.Fits unit below then
    if r.Fits unit (below + 1) ∧ (2 * below + 1) * grid ≤ 2 * r.value * place then
      some (below + 1)
    else some below
  else if r.Fits unit (below + 1) then some (below + 1)
  else none

/-- The number of digits before the decimal point, negative for a value below `1/10`. -/
def magnitude (r : Rounding) : Int :=
  let guard : Nat := 400
  let scaled := r.value * numer 2 r.scale * Nat.pow 10 guard / denom 2 r.scale
  ((Nat.toDigits 10 scaled).length : Int) - guard

end Rounding

/-! ## Decimals and their positional text -/

/-- The decimal `digits * 10 ^ exponent`. -/
structure Scaled where
  digits : Nat
  exponent : Int
deriving DecidableEq

namespace Scaled

/-- The shortest decimal that reads back as a double; seventeen digits always suffice. -/
def shortest (r : Rounding) : Scaled :=
  let top := r.magnitude
  let onGrid (n : Nat) : Option Scaled :=
    (r.nearest? (top - n)).map fun digits =>
      if digits = Nat.pow 10 n then ⟨1, top⟩ else ⟨digits, top - n⟩
  ((List.range' 1 17).findSome? onGrid).getD ⟨0, 0⟩

/-- The digits of a decimal around its point, without an exponent. -/
def positional (d : Scaled) : List Char :=
  let digits := Nat.toDigits 10 d.digits
  if 0 ≤ d.exponent then digits ++ List.replicate d.exponent.toNat '0'
  else
    let places := (-d.exponent).toNat
    let padded := List.replicate (places + 1 - digits.length) '0' ++ digits
    padded.take (padded.length - places) ++ '.' :: padded.drop (padded.length - places)

end Scaled

/-! ## The text of a double -/

/-- A double in positional notation with the fewest digits that read back, never with an exponent.

A whole number is followed by `wholeEnding`; zero keeps its sign, and a value that
is no number has none. -/
def text (wholeEnding : String) (x : Float) : String :=
  if x.isNaN then "NaN"
  else
    let sign := if x.toBits.toNat < 9223372036854775808 then "" else "-"
    if x.isInf then sign ++ "inf"
    else
      let digits :=
        if x == 0 then ['0'] else (Scaled.shortest (.ofBits x.toBits)).positional
      sign ++ String.ofList digits ++ (if digits.contains '.' then "" else wholeEnding)

end Decimal

end ArityLadder
