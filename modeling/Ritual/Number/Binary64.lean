namespace Ritual
namespace Number

/-!
# Binary64 magnitudes

Every finite magnitude of binary64 is a whole number of units of `2 ^ -1074`.
Rounding to the nearest one is exact arithmetic on natural numbers; nothing here
rounds twice.  Signs and the values that are not finite are left to the type of
floating-point values at the end.
-/

/-- A power of two. -/
def twoTo (exponent : Nat) : Nat := Nat.pow 2 exponent

/-- A power of ten. -/
def tenTo (exponent : Nat) : Nat := Nat.pow 10 exponent

/-- A quotient rounded to the nearest whole number, and from halfway to the even
one. -/
def divideRounded (numerator denominator : Nat) : Nat :=
  let quotient := numerator / denominator
  let twice := 2 * (numerator % denominator)
  if twice < denominator ∨ (twice = denominator ∧ quotient % 2 = 0) then quotient
  else quotient + 1

/-- The magnitude of `mantissa * 2 ^ scale` units.  The mantissa has at most 53
bits, and exactly 53 unless the scale is zero. -/
structure Magnitude where
  mantissa : Nat
  scale : Nat
deriving DecidableEq, Repr

namespace Magnitude

/-- The magnitude of zero. -/
def zero : Magnitude := ⟨0, 0⟩

/-- The magnitude nearest to a quotient, unless it is beyond the largest. -/
def nearest? (numerator denominator : Nat) : Option Magnitude :=
  let units := numerator * twoTo 1074
  let scale := (units / denominator).log2 + 1 - 53
  let rounded := divideRounded units (denominator * twoTo scale)
  let magnitude : Magnitude :=
    if rounded = twoTo 53 then ⟨twoTo 52, scale + 1⟩ else ⟨rounded, scale⟩
  if magnitude.scale ≤ 2045 then some magnitude else none

/-- The magnitude nearest to `significand * 10 ^ exponent`, unless it is beyond
the largest.  What is certainly too large or too small is answered without
raising ten to the exponent. -/
def ofDecimal? (significand : Nat) (exponent : Int) : Option Magnitude :=
  if significand = 0 then some zero
  else
    let order := exponent + (Nat.toDigits 10 significand).length
    if 310 < order then none
    else if order < -330 then some zero
    else if 0 ≤ exponent then nearest? (significand * tenTo exponent.toNat) 1
    else nearest? significand (tenTo (-exponent).toNat)

end Magnitude

/-- A binary64 value.  There is one value that is not a number. -/
inductive Binary64 where
  | finite (negative : Bool) (magnitude : Magnitude)
  | infinite (negative : Bool)
  | notANumber
deriving DecidableEq, Repr

namespace Binary64

/-- Whether two values are one key: zeros of either sign are, and so is what is
not a number. -/
def sameKey : Binary64 → Binary64 → Bool
  | finite left magnitude, finite right other =>
    magnitude == other && (left == right || magnitude == Magnitude.zero)
  | infinite left, infinite right => left == right
  | notANumber, notANumber => true
  | _, _ => false

end Binary64
end Number
end Ritual
