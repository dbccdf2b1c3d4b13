namespace Ritual
namespace Text

/-!
# Ascending code point ranges

A character property is stored as the ascending list of closed code point
ranges that have it.  The order is a field of the type, so a look-up may stop
at the first range above the code point.  What a particular table says about
Unicode is data, and nothing is established about it here.
-/

/-- Whether ranges are non-empty, disjoint and ascending, with nothing below
`floor`. -/
def ascending : Nat → List (Nat × Nat) → Bool
  | _, [] => true
  | floor, (first, last) :: rest =>
    decide (floor ≤ first) && decide (first ≤ last) && ascending (last + 1) rest

/-- Whether some range covers the code point, for ranges in ascending order. -/
def covered (code : Nat) : List (Nat × Nat) → Bool
  | [] => false
  | (first, last) :: rest =>
    if code < first then false else decide (code ≤ last) || covered code rest

/-- A set of code points, given by its ascending ranges. -/
structure CodeRanges where
  ranges : List (Nat × Nat)
  ordered : ascending 0 ranges = true := by decide +kernel

namespace CodeRanges

/-- Whether the character's code point lies in one of the ranges. -/
def contains (table : CodeRanges) (char : Char) : Bool :=
  covered char.toNat table.ranges

end CodeRanges
end Text
end Ritual
