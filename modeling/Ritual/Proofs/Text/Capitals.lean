import Mathlib.Data.List.Forall2
import Mathlib.Data.List.Infix
import Ritual.Proofs.Text.Preimages
import Ritual.Text.LowerCase
import Ritual.Text.UpperCase

namespace Ritual
namespace Text

/-!
# Texts whose upper case is a word in ASCII capitals

Such a text is spelled letter by letter: each letter is the capital itself or its
small form, except that the dotless `ı` has the capital `I` and the long `ſ` has the
capital `S`.  These two have no other capital and are small already, so lower case
tells them from `i` and `s` where upper case does not.
-/

/-- The capitals of ASCII. -/
def capitals : List Char :=
  "ABCDEFGHIJKLMNOPQRSTUVWXYZ".toList

/-- The letters beyond ASCII whose capital is one of ASCII. -/
def strays : List Char :=
  ['ı', 'ſ']

/-! ## The tables

Characters are finitely many, so a check of every character of a list has to say
that it runs over the list.
-/

theorem forall_of_all {Item : Type} {property : Item → Prop} [DecidablePred property]
    {items : List Item} (checked : (items.all fun item => decide (property item)) = true) :
    ∀ item ∈ items, property item := by
  simpa only [List.all_eq_true, decide_eq_true_eq] using checked

theorem forall₂_of_all {First Second : Type} {property : First → Second → Prop}
    [∀ first second, Decidable (property first second)] {items : List First}
    {others : First → List Second}
    (checked : (items.all fun first =>
      (others first).all fun second => decide (property first second)) = true) :
    ∀ first ∈ items, ∀ second ∈ others first, property first second := by
  simpa only [List.all_eq_true, decide_eq_true_eq] using checked

/-- The letters that have a capital of ASCII: the capital itself, its small form and a stray. -/
def spellings (capital : Char) : List Char :=
  [capital, capital.toLower] ++
    (if capital = 'I' then ['ı'] else if capital = 'S' then ['ſ'] else [])

theorem sources_eq_spellings : ∀ capital ∈ capitals,
    upperMap.sources capital = spellings capital :=
  forall_of_all (by decide +kernel)

/-- What is said of all letters with an ASCII capital is checked on their list. -/
theorem forall_sources {property : Char → Char → Prop}
    [∀ capital char, Decidable (property capital char)]
    (checked : (capitals.all fun capital =>
      (spellings capital).all fun char => decide (property capital char)) = true) :
    ∀ capital ∈ capitals, ∀ char ∈ upperMap.sources capital, property capital char := by
  intro capital listed char source
  rw [sources_eq_spellings capital listed] at source
  exact forall₂_of_all checked capital listed char source

/-- What lower case makes of a letter that has an ASCII capital. -/
theorem lower_of_sources : ∀ capital ∈ capitals, ∀ char ∈ upperMap.sources capital,
    (lowerChar char = [char.toLower] ∧ char ≠ 'Σ') ∧
      (char ∉ capitals → char.toLower = char) ∧
      (char ∈ strays ∨ char.toLower = capital.toLower) :=
  forall_sources (by decide +kernel)

/-- Nothing has an ASCII capital as its small form. -/
theorem sources_of_small : ∀ capital ∈ capitals, lowerMap.sources capital = [] :=
  forall_of_all (by decide +kernel)

/-- What has an ASCII capital, and is none, is the capital of no single character. -/
theorem image_of_sources : ∀ capital ∈ capitals, ∀ char ∈ upperMap.sources capital,
    char = capital ∨
      upperMap.sources char = [] ∧ 'a'.toNat ≤ char.toNat ∧ char.toNat ≤ 'ſ'.toNat :=
  forall_sources (by decide +kernel)

theorem capitals_visible : ∀ capital ∈ capitals, capital ≠ Char.ofNat 0 :=
  forall_of_all (by decide)

/-- An expansion has several parts, and none of them is a small form or a stray. -/
theorem expansions_apart : ∀ entry ∈ upperExpansions, 2 ≤ entry.2.length ∧
    ∀ code ∈ entry.2,
      (Char.ofNat code).toNat < 'a'.toNat ∨ 'ſ'.toNat < (Char.ofNat code).toNat := by
  decide +kernel

/-- The pairs of ASCII capitals that an expansion begins with. -/
def ligatures : List (List Char) :=
  [['S', 'S'], ['S', 'T'], ['F', 'F'], ['F', 'I'], ['F', 'L']]

theorem expansions_of_capitals : ∀ entry ∈ upperExpansions,
    (∃ code ∈ entry.2, Char.ofNat code ∉ capitals) ∨
      ∃ pair ∈ ligatures, pair <+: entry.2.map Char.ofNat := by
  decide +kernel

/-! ## Upper case, letter by letter -/

theorem upperChar_cases (char : Char) :
    upperChar char = [upperMap.apply char] ∨
      ∃ entry ∈ upperExpansions, upperChar char = entry.2.map Char.ofNat := by
  unfold upperChar
  split
  · exact Or.inl rfl
  · split
    · rename_i codes found
      rcases List.lookup_eq_some_iff.mp found with ⟨before, after, parts, _⟩
      refine Or.inr ⟨(char.toNat, codes), ?_, rfl⟩
      rw [parts]
      simp
    · exact Or.inl rfl

theorem mem_sources_of_upperChar {capital : Char} (listed : capital ∈ capitals) {char : Char}
    (found : upperChar char = [capital]) : char ∈ upperMap.sources capital := by
  rcases upperChar_cases char with single | ⟨entry, member, expanded⟩
  · rw [single] at found
    exact CaseMap.mem_sources (capitals_visible capital listed) (List.cons.inj found).1
  · have long := (expansions_apart entry member).1
    rw [expanded] at found
    have lengths := congrArg List.length found
    rw [List.length_map, List.length_singleton] at lengths
    omega

/-- A word in capitals that no expansion is a part of. -/
structure PlainWord (word : List Char) : Prop where
  capital : ∀ char ∈ word, char ∈ capitals
  unexpanded : ∀ entry ∈ upperExpansions, ¬entry.2.map Char.ofNat <:+: word

theorem PlainWord.of_no_ligature {word : List Char} (capital : ∀ char ∈ word, char ∈ capitals)
    (apart : ∀ pair ∈ ligatures, ¬pair <:+: word) : PlainWord word where
  capital := capital
  unexpanded := by
    intro entry listed inside
    rcases expansions_of_capitals entry listed with ⟨code, part, other⟩ | ⟨pair, ligature, begins⟩
    · exact other (capital _ (inside.subset (List.mem_map_of_mem part)))
    · exact apart pair ligature (begins.isInfix.trans inside)

theorem forall₂_of_flatMap {chars word : List Char}
    (unexpanded : ∀ entry ∈ upperExpansions, ¬entry.2.map Char.ofNat <:+: word)
    (same : chars.flatMap upperChar = word) :
    List.Forall₂ (fun char capital => upperChar char = [capital]) chars word := by
  induction chars generalizing word with
  | nil =>
    subst same
    exact .nil
  | cons char rest inductionHypothesis =>
    rw [List.flatMap_cons] at same
    rcases upperChar_cases char with single | ⟨entry, member, expanded⟩
    · rw [single] at same
      subst same
      refine .cons single ?_
      apply inductionHypothesis _ rfl
      intro entry member inside
      exact unexpanded entry member (inside.trans (List.suffix_cons _ _).isInfix)
    · rw [expanded] at same
      subst same
      exact absurd (List.prefix_append _ _).isInfix (unexpanded entry member)

/-- A text whose upper case is a plain word. -/
def Spells (word : List Char) (text : String) : Prop :=
  List.Forall₂ (fun char capital => capital ∈ capitals ∧ char ∈ upperMap.sources capital)
    text.toList word

theorem PlainWord.spells {word : List Char} (plain : PlainWord word) {text : String}
    (same : (uppercase text).toList = word) : Spells word text := by
  rw [toList_uppercase] at same
  have letters := forall₂_of_flatMap plain.unexpanded same
  have capital := plain.capital
  rw [Spells]
  clear same plain
  generalize text.toList = chars at letters ⊢
  induction letters with
  | nil => exact .nil
  | cons first _ inductionHypothesis =>
    have listed := capital _ List.mem_cons_self
    exact .cons ⟨listed, mem_sources_of_upperChar listed first⟩
      (inductionHypothesis fun char member => capital char (List.mem_cons_of_mem _ member))

/-- Upper case leaves nothing that has another capital among those of ASCII. -/
theorem eq_capital_of_upperChar {capital : Char} (listed : capital ∈ capitals) {char image : Char}
    (image_mem : image ∈ upperChar char) (source : image ∈ upperMap.sources capital) :
    image = capital := by
  rcases image_of_sources capital listed image source with same | ⟨none, above, below⟩
  · exact same
  · rcases upperChar_cases char with single | ⟨entry, member, expanded⟩
    · have visible : image ≠ Char.ofNat 0 := by
        rintro rfl
        exact absurd above (by simp)
      rw [single] at image_mem
      have found := CaseMap.mem_sources visible (List.mem_singleton.mp image_mem).symm
      rw [none] at found
      cases found
    · rw [expanded] at image_mem
      rcases List.mem_map.mp image_mem with ⟨code, codeListed, rfl⟩
      rcases (expansions_apart entry member).2 code codeListed with small | large
      · exact absurd above (Nat.not_le_of_lt small)
      · exact absurd below (Nat.not_le_of_lt large)

/-- Capitals that are made twice are made once. -/
theorem PlainWord.uppercase_eq {word : List Char} (plain : PlainWord word) {text : String}
    (same : (uppercase (uppercase text)).toList = word) : (uppercase text).toList = word := by
  have spells := plain.spells same
  have images : ∀ image ∈ (uppercase text).toList, ∃ char, image ∈ upperChar char := by
    intro image listed
    rw [toList_uppercase] at listed
    rcases List.mem_flatMap.mp listed with ⟨char, _, found⟩
    exact ⟨char, found⟩
  rw [Spells] at spells
  clear same plain
  generalize (uppercase text).toList = letters at spells images
  -- a letter that was made by upper case is no small form and no stray
  induction spells with
  | nil => rfl
  | cons first _ inductionHypothesis =>
    rcases images _ List.mem_cons_self with ⟨char, found⟩
    rw [eq_capital_of_upperChar first.1 found first.2,
      inductionHypothesis fun image member => images image (List.mem_cons_of_mem _ member)]

/-! ## Lower case, letter by letter -/

theorem not_capital_of_mem_lowerAfter {before chars : List Char} {char : Char}
    (listed : char ∈ lowerAfter before chars) : char ∉ capitals := by
  have fixed : ∀ small ∈ ['i', '\u0307', 'σ', 'ς'], small ∉ capitals :=
    forall_of_all (by decide)
  induction chars generalizing before with
  | nil => cases listed
  | cons first rest inductionHypothesis =>
    rw [lowerAfter] at listed
    rcases List.mem_append.mp listed with here | later
    · split at here
      · apply fixed
        rw [List.mem_singleton.mp here, lowerSigma]
        split <;> simp
      · unfold lowerChar at here
        split at here
        · apply fixed
          rcases List.mem_cons.mp here with rfl | dot
          · simp
          · simp [List.mem_singleton.mp dot]
        · intro capital
          have found := CaseMap.mem_sources (capitals_visible char capital)
            (List.mem_singleton.mp here).symm
          rw [sources_of_small char capital] at found
          cases found
    · exact inductionHypothesis later

theorem lowerAfter_eq_map (before : List Char) {chars : List Char}
    (plain : ∀ char ∈ chars, lowerChar char = [char.toLower] ∧ char ≠ 'Σ') :
    lowerAfter before chars = chars.map Char.toLower := by
  induction chars generalizing before with
  | nil => rfl
  | cons char rest inductionHypothesis =>
    rcases plain char List.mem_cons_self with ⟨lower, noSigma⟩
    rw [lowerAfter, if_neg noSigma, lower,
      inductionHypothesis _ fun other listed => plain other (List.mem_cons_of_mem _ listed)]
    rfl

namespace Spells

variable {word : List Char} {text : String}

theorem toList_lowercase (spells : Spells word text) :
    (lowercase text).toList = text.toList.map Char.toLower := by
  rw [Text.toList_lowercase]
  apply lowerAfter_eq_map
  rw [Spells] at spells
  generalize text.toList = letters at spells
  induction spells with
  | nil => exact fun char impossible => absurd impossible List.not_mem_nil
  | cons first _ inductionHypothesis =>
    intro char listed
    rcases List.mem_cons.mp listed with rfl | later
    · exact (lower_of_sources _ first.1 _ first.2).1
    · exact inductionHypothesis char later

theorem exists_capital (spells : Spells word text) {char : Char} (listed : char ∈ text.toList) :
    ∃ capital ∈ word, char ∈ upperMap.sources capital := by
  rw [Spells] at spells
  generalize text.toList = letters at spells listed
  induction spells with
  | nil => cases listed
  | cons first _ inductionHypothesis =>
    rcases List.mem_cons.mp listed with rfl | later
    · exact ⟨_, List.mem_cons_self, first.2⟩
    · rcases inductionHypothesis later with ⟨capital, member, source⟩
      exact ⟨capital, List.mem_cons_of_mem _ member, source⟩

theorem lowercase_eq_self (spells : Spells word text) (capital : ∀ char ∈ word, char ∈ capitals)
    (small : ∀ char ∈ text.toList, char ∉ capitals) : lowercase text = text := by
  apply String.toList_injective
  rw [spells.toList_lowercase]
  apply (List.map_congr_left ?_).trans (List.map_id _)
  intro char listed
  rcases spells.exists_capital listed with ⟨image, member, source⟩
  exact (lower_of_sources image (capital image member) char source).2.1 (small char listed)

/-- Without strays the lower case of the text is that of the word. -/
theorem lowercase_of_no_strays (spells : Spells word text)
    (noStrays : ∀ char ∈ strays, char ∉ text.toList) :
    (lowercase text).toList = word.map Char.toLower := by
  rw [spells.toList_lowercase]
  rw [Spells] at spells
  generalize text.toList = letters at spells noStrays
  induction spells with
  | nil => rfl
  | cons first _ inductionHypothesis =>
    rw [List.map_cons, List.map_cons, inductionHypothesis fun char stray listed =>
      noStrays char stray (List.mem_cons_of_mem _ listed)]
    rcases (lower_of_sources _ first.1 _ first.2).2.2 with stray | same
    · exact absurd List.mem_cons_self (noStrays _ stray)
    · rw [same]

theorem stray_mem_lowercase (spells : Spells word text) {char : Char} (stray : char ∈ strays)
    (listed : char ∈ text.toList) : char ∈ (lowercase text).toList := by
  have small : ∀ stray ∈ strays, stray.toLower = stray := forall_of_all (by decide)
  rw [spells.toList_lowercase, ← small char stray]
  exact List.mem_map_of_mem listed

end Spells
end Text
end Ritual
