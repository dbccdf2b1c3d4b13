import Ritual.Proofs.Text.Capitals
import Ritual.Text.Numeric
import Ritual.Text.WhiteSpace
import Ritual.Text.WordChar

namespace Ritual
namespace Text

/-!
# Texts up to the case of their ASCII letters

Two texts differ only in the case of ASCII letters if they are one text once these
letters are small.  What the reader asks of a character does not tell a capital of ASCII
from its small form, which is checked for the 26 capitals, and then holds of every
character.
-/

/-- The characters with every ASCII letter small. -/
def fold (chars : List Char) : List Char :=
  chars.map Char.toLower

@[simp] theorem fold_nil : fold [] = [] :=
  List.map_nil

@[simp] theorem fold_cons (char : Char) (rest : List Char) :
    fold (char :: rest) = char.toLower :: fold rest :=
  List.map_cons

@[simp] theorem fold_append (left right : List Char) :
    fold (left ++ right) = fold left ++ fold right :=
  List.map_append

/-! ## One character -/

/-- A character that a small form moves is a capital of ASCII. -/
theorem toLower_or_capital (char : Char) : char.toLower = char ∨ char ∈ capitals := by
  have listed : ∀ code < 26, Char.ofNat (65 + code) ∈ capitals := by decide
  unfold Char.toLower
  split
  · rename_i capital
    have above : 65 ≤ char.toNat := UInt32.le_iff_toNat_le.mp capital.1
    have below : char.toNat ≤ 90 := UInt32.le_iff_toNat_le.mp capital.2
    have found := listed (char.toNat - 65) (by omega)
    rw [Nat.add_sub_cancel' above, Char.ofNat_toNat] at found
    exact Or.inr found
  · exact Or.inl rfl

/-- What does not tell the capitals of ASCII from their small forms tells no character
from its small form. -/
theorem view_toLower {Value : Type} {view : Char → Value}
    (checked : ∀ capital ∈ capitals, view capital.toLower = view capital) (char : Char) :
    view char.toLower = view char := by
  rcases toLower_or_capital char with same | capital
  · rw [same]
  · exact checked char capital

/-- A character that is no letter of ASCII is the small form of itself alone. -/
theorem toLower_eq_iff {mark : Char} (noLetter : mark.isAlpha = false) (char : Char) :
    char.toLower = mark ↔ char = mark := by
  have letters : ∀ capital ∈ capitals, capital.isAlpha = true ∧ capital.toLower.isAlpha = true :=
    forall_of_all (by decide)
  rcases toLower_or_capital char with same | capital
  · rw [same]
  · constructor
    · rintro rfl
      rw [(letters char capital).2] at noLetter
      cases noLetter
    · rintro rfl
      rw [(letters char capital).1] at noLetter
      cases noLetter

theorem bne_toLower {mark : Char} (noLetter : mark.isAlpha = false) (char : Char) :
    (char.toLower != mark) = (char != mark) := by
  rw [Bool.eq_iff_iff, bne_iff_ne, bne_iff_ne, Ne, toLower_eq_iff noLetter]

theorem toUpper_toLower (char : Char) : char.toLower.toUpper = char.toUpper :=
  view_toLower (forall_of_all (by decide)) char

theorem toLower_toLower (char : Char) : char.toLower.toLower = char.toLower :=
  view_toLower (forall_of_all (by decide)) char

@[simp] theorem fold_fold (chars : List Char) : fold (fold chars) = fold chars := by
  rw [fold, fold, List.map_map]
  apply List.map_congr_left
  intro char _
  exact toLower_toLower char

theorem utf8Size_toLower (char : Char) : char.toLower.utf8Size = char.utf8Size :=
  view_toLower (forall_of_all (by decide)) char

theorem isNumeric_toLower (char : Char) : isNumeric char.toLower = isNumeric char :=
  view_toLower (forall_of_all (by decide +kernel)) char

theorem isWhiteSpace_toLower (char : Char) : isWhiteSpace char.toLower = isWhiteSpace char :=
  view_toLower (forall_of_all (by decide +kernel)) char

theorem isWordChar_toLower (char : Char) : isWordChar char.toLower = isWordChar char :=
  view_toLower (forall_of_all (by decide +kernel)) char

theorem lowerChar_toLower (char : Char) : lowerChar char.toLower = lowerChar char :=
  view_toLower (forall_of_all (by decide +kernel)) char

/-! ## Runs of characters -/

theorem isEmpty_fold (chars : List Char) : (fold chars).isEmpty = chars.isEmpty := by
  cases chars <;> rfl

theorem dropWhile_fold {property : Char → Bool}
    (blind : ∀ char, property char.toLower = property char) (chars : List Char) :
    (fold chars).dropWhile property = fold (chars.dropWhile property) := by
  rw [fold, List.dropWhile_map]
  congr 2
  funext char
  exact blind char

theorem takeWhile_fold {property : Char → Bool}
    (blind : ∀ char, property char.toLower = property char) (chars : List Char) :
    (fold chars).takeWhile property = fold (chars.takeWhile property) := by
  rw [fold, List.takeWhile_map]
  congr 2
  funext char
  exact blind char

/-! ## Lower case -/

theorem meetsCased_fold (chars : List Char) : meetsCased (fold chars) = meetsCased chars := by
  have cased : ∀ char, casedRanges.contains char.toLower = casedRanges.contains char :=
    view_toLower (forall_of_all (by decide +kernel))
  have ignorable : ∀ char, caseIgnorableRanges.contains char.toLower =
      caseIgnorableRanges.contains char :=
    view_toLower (forall_of_all (by decide +kernel))
  induction chars with
  | nil => rfl
  | cons char rest inductionHypothesis =>
    rw [fold_cons, meetsCased, meetsCased, cased, ignorable, inductionHypothesis]

theorem lowerSigma_fold (before after : List Char) :
    lowerSigma (fold before) (fold after) = lowerSigma before after := by
  rw [lowerSigma, lowerSigma, meetsCased_fold, meetsCased_fold]

theorem lowerAfter_fold (before chars : List Char) :
    lowerAfter (fold before) (fold chars) = lowerAfter before chars := by
  induction chars generalizing before with
  | nil => rfl
  | cons char rest inductionHypothesis =>
    have later := inductionHypothesis (char :: before)
    rw [fold_cons] at later
    rw [fold_cons, lowerAfter, lowerAfter, lowerSigma_fold, lowerChar_toLower, later]
    simp only [toLower_eq_iff (show 'Σ'.isAlpha = false by decide)]

/-- Lower case does not depend on the case of ASCII letters, not even where a sigma stands
among them. -/
theorem lowercase_eq_of_fold {first second : String}
    (same : fold first.toList = fold second.toList) : lowercase first = lowercase second := by
  apply String.toList_injective
  rw [toList_lowercase, toList_lowercase, ← lowerAfter_fold [] first.toList,
    ← lowerAfter_fold [] second.toList, same]

theorem lowercase_fold (chars : List Char) :
    lowercase (String.ofList (fold chars)) = lowercase (String.ofList chars) := by
  apply lowercase_eq_of_fold
  rw [String.toList_ofList, String.toList_ofList, fold_fold]

end Text
end Ritual
