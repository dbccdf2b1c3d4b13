namespace Ritual
namespace Text

/-!
# Runs of a simple case mapping

A simple case mapping moves one code point to one code point.  It is stored as
ascending runs, each of which moves equally spaced code points by one common
distance.  Mappings to several characters and mappings that depend on the
neighbouring characters are not runs; the modules on lower and upper case add
them.
-/

/-- Every `step`-th code point from `first` to `last` is moved by one distance,
namely the one from `first` to `target`. -/
structure CaseRun where
  first : Nat
  last : Nat
  step : Nat
  target : Nat

namespace CaseRun

/-- The image of a code point that the run moves. -/
def image? (run : CaseRun) (code : Nat) : Option Nat :=
  if run.first ≤ code ∧ code ≤ run.last ∧ (code - run.first) % run.step = 0 then
    some (run.target + (code - run.first))
  else
    none

/-- Whether runs are ascending and do not overlap, with nothing below `floor`. -/
def ascending : Nat → List CaseRun → Bool
  | _, [] => true
  | floor, run :: rest =>
    decide (floor ≤ run.first) && decide (run.first ≤ run.last) && ascending (run.last + 1) rest

/-- The image of a code point under ascending runs, and the code point itself
if no run moves it. -/
def moved (code : Nat) : List CaseRun → Nat
  | [] => code
  | run :: rest =>
    if code < run.first then code
    else match run.image? code with
      | some image => image
      | none => moved code rest

end CaseRun

/-- A simple case mapping. -/
structure CaseMap where
  runs : List CaseRun
  ordered : CaseRun.ascending 0 runs = true := by decide +kernel

namespace CaseMap

/-- The character to which the mapping moves a character. -/
def apply (map : CaseMap) (char : Char) : Char :=
  Char.ofNat (CaseRun.moved char.toNat map.runs)

end CaseMap
end Text
end Ritual
