import Ritual.Proofs.Collections
import Ritual.Proofs.Text.Capitals

namespace Ritual
namespace Text

/-!
# Texts of one line

A text is of one line if it has no line feed.  Texts of one line that are joined give one
line again, and so does any of them in another case, since a line feed is neither the
capital nor the small form of another character.  Texts of one line that are listed below
each other are what the listing is cut into at its line feeds.
-/

/-- Whether a text has no line feed. -/
def OneLine (text : String) : Prop :=
  '\n' ∉ text.toList

instance (text : String) : Decidable (OneLine text) :=
  inferInstanceAs (Decidable ('\n' ∉ text.toList))

@[simp] theorem oneLine_append {left right : String} :
    OneLine (left ++ right) ↔ OneLine left ∧ OneLine right := by
  rw [OneLine, OneLine, OneLine, String.toList_append, List.mem_append, not_or]

/-- A line feed is the capital of itself alone. -/
theorem eq_lineFeed_of_upperChar {char : Char} (listed : '\n' ∈ upperChar char) : char = '\n' := by
  have alone : upperMap.sources '\n' = ['\n'] := by decide
  have unexpanded : ∀ entry ∈ upperExpansions, ∀ code ∈ entry.2, Char.ofNat code ≠ '\n' :=
    forall₂_of_all (by decide)
  rcases upperChar_cases char with single | ⟨entry, member, expanded⟩
  · rw [single] at listed
    have found := CaseMap.mem_sources (by decide) (List.mem_singleton.mp listed).symm
    rw [alone] at found
    exact List.mem_singleton.mp found
  · rw [expanded] at listed
    rcases List.mem_map.mp listed with ⟨code, part, same⟩
    exact absurd same (unexpanded entry member code part)

/-- A line feed is the small form of itself alone. -/
theorem eq_lineFeed_of_lowerChar {char : Char} (listed : '\n' ∈ lowerChar char) : char = '\n' := by
  have alone : lowerMap.sources '\n' = ['\n'] := by decide
  unfold lowerChar at listed
  split at listed
  · exact absurd listed (by decide)
  · have found := CaseMap.mem_sources (by decide) (List.mem_singleton.mp listed).symm
    rw [alone] at found
    exact List.mem_singleton.mp found

theorem lineFeed_of_lowerAfter {before chars : List Char}
    (listed : '\n' ∈ lowerAfter before chars) : '\n' ∈ chars := by
  induction chars generalizing before with
  | nil => cases listed
  | cons first rest inductionHypothesis =>
    rw [lowerAfter] at listed
    rcases List.mem_append.mp listed with here | later
    · split at here
      · have sigma := List.mem_singleton.mp here
        unfold lowerSigma at sigma
        split at sigma <;> exact absurd sigma (by decide)
      · rw [eq_lineFeed_of_lowerChar here]
        exact List.mem_cons_self
    · exact List.mem_cons_of_mem _ (inductionHypothesis later)

/-- A number is written with digits. -/
theorem isDigit_of_mem_toString {number : Nat} :
    ∀ char ∈ (toString number).toList, char.isDigit = true := by
  intro char listed
  exact Nat.isDigit_of_mem_toDigits (by decide) (by decide) (String.toList_ofList ▸ listed)

namespace OneLine

variable {text : String}

theorem intercalate {separator : String} (between : OneLine separator) {texts : List String}
    (oneLine : ∀ text ∈ texts, OneLine text) : OneLine (separator.intercalate texts) := by
  rw [OneLine, String.toList_intercalate]
  intro listed
  rcases mem_of_mem_intercalate listed with found | ⟨chars, member, found⟩
  · exact between found
  · rcases List.mem_map.mp member with ⟨text, given, rfl⟩
    exact oneLine text given found

theorem uppercase (oneLine : OneLine text) : OneLine (Text.uppercase text) := by
  rw [OneLine, toList_uppercase]
  intro listed
  rcases List.mem_flatMap.mp listed with ⟨char, given, capital⟩
  rw [eq_lineFeed_of_upperChar capital] at given
  exact oneLine given

theorem lowercase (oneLine : OneLine text) : OneLine (Text.lowercase text) := by
  rw [OneLine, toList_lowercase]
  exact fun listed => oneLine (lineFeed_of_lowerAfter listed)

theorem natural (number : Nat) : OneLine (toString number) :=
  fun listed => absurd (isDigit_of_mem_toString '\n' listed) (by decide)

end OneLine

/-- Texts that are joined by a character which none of them has are found between its places. -/
theorem splitOn_intercalate {separator : String} {char : Char}
    (single : separator.toList = [char]) {texts : List String} (nonempty : texts ≠ [])
    (without : ∀ text ∈ texts, char ∉ text.toList) :
    (separator.intercalate texts).toList.splitOn char = texts.map String.toList := by
  rw [String.toList_intercalate, single]
  apply List.splitOn_intercalate
  · intro chars listed
    rcases List.mem_map.mp listed with ⟨text, given, rfl⟩
    exact without text given
  · exact fun none => nonempty (List.map_eq_nil_iff.mp none)

/-- A listing of texts of one line is cut into them at its line feeds. -/
theorem lines_intercalate {texts : List String} (nonempty : texts ≠ [])
    (oneLine : ∀ text ∈ texts, OneLine text) :
    ("\n".intercalate texts).toList.splitOn '\n' = texts.map String.toList :=
  splitOn_intercalate rfl nonempty oneLine

end Text
end Ritual
