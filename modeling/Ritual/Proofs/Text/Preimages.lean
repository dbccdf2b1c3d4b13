import Ritual.Text.CaseRuns

namespace Ritual
namespace Text

/-!
# Which characters a case mapping moves to a character

A run moves at most one code point to a given one, so a finite list holds every
code point that a mapping can move there.  What is said of all characters of a
given case can then be checked on that list.
-/

namespace CaseRun

/-- The code point that the run may move to an image. -/
def preimage? (run : CaseRun) (image : Nat) : Option Nat :=
  if run.target ≤ image ∧ image ≤ run.target + (run.last - run.first) then
    some (run.first + (image - run.target))
  else
    none

theorem preimage?_of_image? {run : CaseRun} {code image : Nat}
    (found : run.image? code = some image) : run.preimage? image = some code := by
  unfold image? at found
  split at found
  · rename_i inside
    obtain rfl := Option.some.inj found
    have reached : run.target ≤ run.target + (code - run.first) ∧
        run.target + (code - run.first) ≤ run.target + (run.last - run.first) := by omega
    rw [preimage?, if_pos reached]
    congr 1
    omega
  · cases found

theorem moved_cases (code : Nat) (runs : List CaseRun) :
    moved code runs = code ∨ ∃ run ∈ runs, run.image? code = some (moved code runs) := by
  induction runs with
  | nil => exact Or.inl rfl
  | cons run rest inductionHypothesis =>
    rw [moved]
    split
    · exact Or.inl rfl
    · split
      · rename_i image found
        exact Or.inr ⟨run, List.mem_cons_self, found⟩
      · rcases inductionHypothesis with stays | ⟨later, listed, found⟩
        · exact Or.inl stays
        · exact Or.inr ⟨later, List.mem_cons_of_mem _ listed, found⟩

/-- The code points that runs may move to an image. -/
def preimages (image : Nat) (runs : List CaseRun) : List Nat :=
  image :: runs.filterMap fun run => run.preimage? image

theorem mem_preimages (code : Nat) (runs : List CaseRun) :
    code ∈ preimages (moved code runs) runs := by
  rcases moved_cases code runs with stays | ⟨run, listed, found⟩
  · rw [stays]
    exact List.mem_cons_self
  · exact List.mem_cons_of_mem _
      (List.mem_filterMap.mpr ⟨run, listed, preimage?_of_image? found⟩)

end CaseRun

namespace CaseMap

/-- The characters that a mapping moves to a character. -/
def sources (map : CaseMap) (image : Char) : List Char :=
  ((CaseRun.preimages image.toNat map.runs).map Char.ofNat).filter fun char =>
    map.apply char == image

theorem mem_sources {map : CaseMap} {char image : Char} (visible : image ≠ Char.ofNat 0)
    (moved : map.apply char = image) : char ∈ map.sources image := by
  have code : CaseRun.moved char.toNat map.runs = image.toNat := by
    subst moved
    unfold apply at visible ⊢
    generalize CaseRun.moved char.toNat map.runs = code at visible ⊢
    by_cases valid : code.isValidChar
    · have whole : Char.ofNat code = Char.ofNatAux code valid := dif_pos valid
      rw [whole]
      rfl
    · have broken : Char.ofNat code = Char.ofNat 0 := dif_neg valid
      exact absurd broken visible
  apply List.mem_filter.mpr
  refine ⟨?_, by simpa using moved⟩
  have listed := CaseRun.mem_preimages char.toNat map.runs
  rw [code] at listed
  exact List.mem_map.mpr ⟨char.toNat, listed, Char.ofNat_toNat char⟩

end CaseMap
end Text
end Ritual
