import Ritual.Number.Binary64

namespace Ritual
namespace Number

/-!
# The shortest decimals that read back

The decimals that round to a magnitude fill an interval, whose ends belong to it
if the mantissa is even.  Grids of decimals are tried from coarse to fine, and on
each only the two neighbours of the magnitude, since no other point of the grid
can lie in the interval when these do not.
-/

/-- The decimal `significand * 10 ^ exponent`. -/
structure Decimal where
  significand : Nat
  exponent : Int
deriving DecidableEq, Repr

namespace Magnitude

/-- The magnitude in quarters of a unit. -/
def quarters (magnitude : Magnitude) : Nat :=
  4 * magnitude.mantissa * twoTo magnitude.scale

/-- The lower end of the interval, in quarters of a unit.  Below a power of two
the next magnitude is half as far away. -/
def lowerEnd (magnitude : Magnitude) : Nat :=
  let step := twoTo magnitude.scale
  if magnitude.mantissa = twoTo 52 ∧ 0 < magnitude.scale then magnitude.quarters - step
  else magnitude.quarters - 2 * step

/-- The upper end of the interval, in quarters of a unit. -/
def upperEnd (magnitude : Magnitude) : Nat :=
  magnitude.quarters + 2 * twoTo magnitude.scale

/-- The exponent of ten of the leading digit. -/
def leadingExponent (magnitude : Magnitude) : Int :=
  let whole := magnitude.quarters / twoTo 1076
  if 0 < whole then (Nat.toDigits 10 whole).length - 1
  else
    match (List.range 330).find? fun shift =>
        decide (twoTo 1076 ≤ magnitude.quarters * tenTo (shift + 1)) with
    | some shift => -(shift + 1)
    | none => 0

/-- The neighbour on the grid of multiples of `10 ^ exponent` that rounds to the
magnitude.  Of two the nearer is taken, and from halfway the even one. -/
def onGrid? (magnitude : Magnitude) (exponent : Int) : Option Nat :=
  let unit := twoTo 1076 * tenTo exponent.toNat
  let factor := tenTo (-exponent).toNat
  let value := magnitude.quarters * factor
  let inside (candidate : Nat) : Bool :=
    let point := candidate * unit
    let lower := magnitude.lowerEnd * factor
    let upper := magnitude.upperEnd * factor
    if magnitude.mantissa % 2 = 0 then lower ≤ point && point ≤ upper
    else lower < point && point < upper
  let below := value / unit
  match inside below, inside (below + 1) with
  | true, true => some (divideRounded value unit)
  | true, false => some below
  | false, true => some (below + 1)
  | false, false => none

/-- The decimal with the fewest digits that rounds to the magnitude, and the
nearest of those.  Seventeen digits are always enough. -/
def shortest (magnitude : Magnitude) : Decimal :=
  let leading := magnitude.leadingExponent
  let found := (List.range 17).findSome? fun (further : Nat) =>
    let exponent := leading - (further : Int)
    (magnitude.onGrid? exponent).map fun significand => Decimal.mk significand exponent
  match found with
  | some decimal =>
    if decimal.significand % 10 = 0 then ⟨decimal.significand / 10, decimal.exponent + 1⟩
    else decimal
  | none => ⟨0, 0⟩

end Magnitude

/-! ## The text of a value -/

/-- Zeros in a row. -/
def zeros (count : Int) : String :=
  String.ofList (List.replicate count.toNat '0')

/-- The text of a decimal: positional from `0.00001` up to sixteen digits before
the point, always with a point, and with an exponent otherwise. -/
def Decimal.text (decimal : Decimal) : String :=
  let digits := Nat.toDigits 10 decimal.significand
  let point := decimal.exponent + digits.length
  if 0 ≤ decimal.exponent ∧ point ≤ 16 then
    String.ofList digits ++ zeros decimal.exponent ++ ".0"
  else if 0 < point ∧ point ≤ 16 then
    String.ofList (digits.take point.toNat) ++ "." ++ String.ofList (digits.drop point.toNat)
  else if -5 < point ∧ point ≤ 0 then
    "0." ++ zeros (-point) ++ String.ofList digits
  else
    let fraction := if digits.length = 1 then "" else "." ++ String.ofList (digits.drop 1)
    String.ofList (digits.take 1) ++ fraction ++ "e" ++ toString (point - 1)

/-- The text of a value.  What is not finite is written as a document writes
it. -/
def Binary64.text : Binary64 → String
  | finite negative magnitude =>
    (if negative then "-" else "") ++
      (if magnitude.mantissa = 0 then "0.0" else magnitude.shortest.text)
  | infinite negative => if negative then "-.inf" else ".inf"
  | notANumber => ".nan"

end Number
end Ritual
