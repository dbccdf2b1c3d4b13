import Ritual.Proofs.Text.Capitals

namespace Ritual
namespace Text

/-!
# Cases that are made twice are made once

The runs of a simple mapping leave alone whatever they move a code point to, so its
images are fixed.  What goes beyond the simple mapping keeps that: the two small
sigmas and the dotted `i` are small, and the parts of an expansion are capitals.
-/

namespace CaseRun

/-- Whether a run leaves alone whatever another run moves a code point to: the images
end before the run or begin after it, or the run steps over them. -/
def spares (run moving : CaseRun) : Bool :=
  (moving.target + (moving.last - moving.first)).blt run.first ||
    run.last.blt moving.target ||
    (run.step == 2 && (moving.step == 2 || moving.first == moving.last) &&
      (run.first + moving.target) % 2 == 1)

theorem image?_of_spares {run moving : CaseRun} (spares : run.spares moving = true)
    {code image : Nat} (moves : moving.image? code = some image) : run.image? image = none := by
  unfold image? at moves
  split at moves
  · rename_i inside
    obtain rfl := Option.some.inj moves
    rw [image?, if_neg]
    simp only [CaseRun.spares, Bool.or_eq_true, Bool.and_eq_true, Nat.blt_eq,
      beq_iff_eq] at spares
    rintro ⟨above, below, stepped⟩
    rcases spares with (early | late) | ⟨⟨two, apart⟩, odd⟩
    · omega
    · omega
    · rw [two] at stepped
      rcases apart with movingTwo | single
      · rw [movingTwo] at inside
        omega
      · omega
  · cases moves

/-- Whether the images of a run are code points of characters. -/
def imagesValid (run : CaseRun) : Bool :=
  (run.target + (run.last - run.first)).blt 0xD800 ||
    (Nat.blt 0xDFFF run.target && (run.target + (run.last - run.first)).blt 0x110000)

theorem toNat_ofNat_image {run : CaseRun} (valid : run.imagesValid = true) {code image : Nat}
    (moves : run.image? code = some image) : (Char.ofNat image).toNat = image := by
  unfold image? at moves
  split at moves
  · obtain rfl := Option.some.inj moves
    simp only [imagesValid, Bool.or_eq_true, Bool.and_eq_true, Nat.blt_eq] at valid
    have isCode : (run.target + (code - run.first)).isValidChar := by
      unfold Nat.isValidChar
      omega
    have whole : Char.ofNat (run.target + (code - run.first)) = Char.ofNatAux _ isCode :=
      dif_pos isCode
    rw [whole]
    rfl
  · cases moves

/-- Whether a run moves nothing to a code point. -/
def misses (run : CaseRun) (code : Nat) : Bool :=
  (run.target + (run.last - run.first)).blt code || code.blt run.target

theorem image?_ne_of_misses {run : CaseRun} {missed : Nat} (misses : run.misses missed = true)
    (code : Nat) : run.image? code ≠ some missed := by
  unfold image?
  simp only [CaseRun.misses, Bool.or_eq_true, Nat.blt_eq] at misses
  split
  · intro found
    have image := Option.some.inj found
    omega
  · exact nofun

theorem moved_of_image?_none {code : Nat} {runs : List CaseRun}
    (still : ∀ run ∈ runs, run.image? code = none) : moved code runs = code := by
  rcases moved_cases code runs with stays | ⟨run, listed, found⟩
  · exact stays
  · rw [still run listed] at found
    cases found

end CaseRun

namespace CaseMap

/-- A mapping whose images are characters that it fixes. -/
structure Settled (map : CaseMap) : Prop where
  valid : ∀ run ∈ map.runs, run.imagesValid = true
  spares : ∀ run ∈ map.runs, ∀ moving ∈ map.runs, run.spares moving = true

theorem apply_cases {map : CaseMap} (settled : map.Settled) (char : Char) :
    map.apply char = char ∨
      ∃ run ∈ map.runs, run.image? char.toNat = some (map.apply char).toNat := by
  rcases CaseRun.moved_cases char.toNat map.runs with stays | ⟨run, listed, moves⟩
  · left
    rw [apply, stays, Char.ofNat_toNat]
  · right
    refine ⟨run, listed, ?_⟩
    rw [apply, CaseRun.toNat_ofNat_image (settled.valid run listed) moves]
    exact moves

theorem apply_apply {map : CaseMap} (settled : map.Settled) (char : Char) :
    map.apply (map.apply char) = map.apply char := by
  rcases apply_cases settled char with stays | ⟨moving, listed, moves⟩
  · rw [stays, stays]
  · have still : CaseRun.moved (map.apply char).toNat map.runs = (map.apply char).toNat := by
      apply CaseRun.moved_of_image?_none
      intro run member
      exact CaseRun.image?_of_spares (settled.spares run member moving listed) moves
    rw [apply, still, Char.ofNat_toNat]

end CaseMap

/-! ## The tables -/

theorem lowerMap_settled : lowerMap.Settled where
  valid := List.all_eq_true.mp (by decide +kernel)
  spares := forall₂_of_all (by decide +kernel)

theorem upperMap_settled : upperMap.Settled where
  valid := List.all_eq_true.mp (by decide +kernel)
  spares := forall₂_of_all (by decide +kernel)

/-- No letter has a dotted capital `I` as its simple small form. -/
theorem misses_dotted : ∀ run ∈ lowerMap.runs, run.misses 'İ'.toNat = true :=
  List.all_eq_true.mp (by decide +kernel)

/-- The parts of an expansion are capitals. -/
theorem upperChar_of_expansion : ∀ entry ∈ upperExpansions, ∀ code ∈ entry.2,
    upperChar (Char.ofNat code) = [Char.ofNat code] :=
  forall₂_of_all (by decide +kernel)

/-- A letter that has an expansion is the simple capital of no letter. -/
theorem misses_expanded : ∀ entry ∈ upperExpansions, ∀ run ∈ upperMap.runs,
    run.misses entry.1 = true :=
  forall₂_of_all (by decide +kernel)

/-! ## Lower case -/

/-- A character that lower case fixes wherever it stands. -/
structure Small (char : Char) : Prop where
  lower : lowerChar char = [char]
  not_sigma : char ≠ 'Σ'

theorem Small.of_mem_lowerChar {char small : Char} (listed : small ∈ lowerChar char) :
    Small small := by
  unfold lowerChar at listed
  split at listed
  · rcases List.mem_cons.mp listed with rfl | dot
    · exact ⟨by decide +kernel, by decide⟩
    · rw [List.mem_singleton.mp dot]
      exact ⟨by decide +kernel, by decide⟩
  · rename_i notDotted
    have image := (List.mem_singleton.mp listed).symm
    have fixed : lowerMap.apply small = small := by
      rw [← image, CaseMap.apply_apply lowerMap_settled]
    refine ⟨?_, ?_⟩
    · rw [lowerChar, if_neg, fixed]
      rintro rfl
      rcases CaseMap.apply_cases lowerMap_settled char with stays | ⟨run, member, moves⟩
      · exact notDotted (stays.symm.trans image)
      · rw [image] at moves
        exact CaseRun.image?_ne_of_misses (misses_dotted run member) _ moves
    · rintro rfl
      exact absurd fixed (by decide +kernel)

theorem Small.lowerSigma (before after : List Char) : Small (lowerSigma before after) := by
  rw [Text.lowerSigma]
  split
  · exact ⟨by decide +kernel, by decide⟩
  · exact ⟨by decide +kernel, by decide⟩

theorem small_of_mem_lowerAfter {before chars : List Char} {char : Char}
    (listed : char ∈ lowerAfter before chars) : Small char := by
  induction chars generalizing before with
  | nil => cases listed
  | cons first rest inductionHypothesis =>
    rw [lowerAfter] at listed
    rcases List.mem_append.mp listed with here | later
    · split at here
      · rw [List.mem_singleton.mp here]
        apply Small.lowerSigma
      · exact Small.of_mem_lowerChar here
    · exact inductionHypothesis later

theorem lowerAfter_of_small {chars : List Char} (small : ∀ char ∈ chars, Small char)
    (before : List Char) : lowerAfter before chars = chars := by
  induction chars generalizing before with
  | nil => rfl
  | cons first rest inductionHypothesis =>
    have here := small first List.mem_cons_self
    rw [lowerAfter, if_neg here.not_sigma, here.lower,
      inductionHypothesis fun char listed => small char (List.mem_cons_of_mem _ listed)]
    rfl

/-- Lower case is made at once. -/
@[simp] theorem lowercase_lowercase (text : String) :
    lowercase (lowercase text) = lowercase text := by
  apply String.toList_injective
  rw [toList_lowercase (lowercase text)]
  apply lowerAfter_of_small
  intro char listed
  rw [toList_lowercase] at listed
  exact small_of_mem_lowerAfter listed

/-! ## Upper case -/

theorem upperChar_of_fixed {char : Char} (fixed : upperMap.apply char = char)
    (unexpanded : upperExpansions.lookup char.toNat = none) : upperChar char = [char] := by
  unfold upperChar
  split
  · rw [fixed]
  · rw [unexpanded]
    exact congrArg (fun image => [image]) fixed

theorem upperChar_of_mem {char capital : Char} (listed : capital ∈ upperChar char) :
    upperChar capital = [capital] := by
  rcases upperChar_cases char with single | ⟨entry, member, expanded⟩
  · have image : upperMap.apply char = capital := by
      rw [single] at listed
      exact (List.mem_singleton.mp listed).symm
    rcases CaseMap.apply_cases upperMap_settled char with stays | ⟨run, member, moves⟩
    · have same : char = capital := stays.symm.trans image
      rw [← same, single, stays]
    · have fixed : upperMap.apply capital = capital := by
        rw [← image, CaseMap.apply_apply upperMap_settled]
      apply upperChar_of_fixed fixed
      rw [List.lookup_eq_none_iff]
      intro entry expanded
      rw [image] at moves
      rw [bne_iff_ne]
      intro same
      rw [same] at moves
      exact CaseRun.image?_ne_of_misses (misses_expanded entry expanded run member) _ moves
  · rw [expanded] at listed
    rcases List.mem_map.mp listed with ⟨code, part, rfl⟩
    exact upperChar_of_expansion entry member code part

/-- Upper case is made at once. -/
@[simp] theorem uppercase_uppercase (text : String) :
    uppercase (uppercase text) = uppercase text := by
  apply String.toList_injective
  rw [toList_uppercase (uppercase text), toList_uppercase, List.flatMap_assoc]
  apply List.flatMap_congr
  intro char _
  -- each capital of the letter is its own capital
  have alone : ∀ capital ∈ upperChar char, upperChar capital = [capital] :=
    fun capital listed => upperChar_of_mem listed
  rw [List.flatMap_congr alone, List.flatMap_singleton']

end Text
end Ritual
