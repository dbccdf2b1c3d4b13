import Ritual.Proofs.Lexeme.Kind
import Ritual.Proofs.Text.LetterCase

namespace Ritual
namespace Lexeme

/-!
# Lexemes up to the case of their letters

Every form of the grammar asks of a letter only that it is one, or what its capital is,
so a lexeme still stands where it stood when the letters of the source are made small.
The value of a literal may change in other ways, since an escape is told by its letter.
-/

open Text

variable {property : Char → Bool}

/-! ## Parts of the forms -/

theorem Stops.fold (blind : ∀ char, property char.toLower = property char) {after : List Char}
    (stops : Stops property after) : Stops property (fold after) := by
  cases after with
  | nil => exact stops
  | cons char rest =>
    rw [fold_cons]
    apply stops_cons.mpr
    rw [blind]
    exact stops_cons.mp stops

theorem forall_fold (blind : ∀ char, property char.toLower = property char) {run : List Char}
    (all : ∀ char ∈ run, property char = true) : ∀ char ∈ fold run, property char = true := by
  intro char listed
  rcases List.mem_map.mp listed with ⟨original, member, rfl⟩
  rw [blind]
  exact all original member

theorem head?_fold_ne {mark : Char} (noLetter : mark.isAlpha = false) {after : List Char}
    (different : after.head? ≠ some mark) : (fold after).head? ≠ some mark := by
  cases after with
  | nil => exact different
  | cons char rest =>
    intro found
    have same := (toLower_eq_iff noLetter char).mp (Option.some.inj found)
    exact different (congrArg some same)

/-- Characters that are no letters begin the small text exactly if they begin the text. -/
theorem prefix_fold_iff {marks : List Char} (noLetters : ∀ mark ∈ marks, mark.isAlpha = false)
    (chars : List Char) : marks <+: fold chars ↔ marks <+: chars := by
  induction marks generalizing chars with
  | nil => exact iff_of_true List.nil_prefix List.nil_prefix
  | cons mark rest inductionHypothesis =>
    cases chars with
    | nil => rfl
    | cons char others =>
      rw [fold_cons, List.cons_prefix_cons, List.cons_prefix_cons, eq_comm,
        toLower_eq_iff (noLetters mark List.mem_cons_self), eq_comm,
        inductionHypothesis fun other listed => noLetters other (List.mem_cons_of_mem _ listed)]

theorem isNameChar_toLower (char : Char) : isNameChar char.toLower = isNameChar char :=
  view_toLower (forall_of_all (by decide +kernel)) char

theorem startsWord_toLower (char : Char) : startsWord char.toLower = startsWord char :=
  view_toLower (forall_of_all (by decide +kernel)) char

theorem isSelectorChar_toLower (char : Char) : isSelectorChar char.toLower = isSelectorChar char :=
  view_toLower (forall_of_all (by decide)) char

theorem isBlank_toLower (char : Char) : isBlank char.toLower = isBlank char :=
  view_toLower (forall_of_all (by decide)) char

theorem isSign_toLower (char : Char) : isSign char.toLower = isSign char :=
  view_toLower (forall_of_all (by decide)) char

theorem IsWord.fold {word : List Char} (isWord : IsWord word) : IsWord (fold word) where
  starts := by
    rcases isWord.starts with ⟨first, rest, rfl, starts⟩
    exact ⟨first.toLower, Text.fold rest, rfl, (startsWord_toLower first).trans starts⟩
  named := forall_fold isNameChar_toLower isWord.named

theorem ofName?_fold (word : List Char) : TagWord.ofName? (fold word) = TagWord.ofName? word := by
  have same : (fold word).map Char.toUpper = word.map Char.toUpper := by
    rw [fold, List.map_map]
    apply List.map_congr_left
    intro char _
    exact toUpper_toLower char
  rw [TagWord.ofName?, same, TagWord.ofName?]

theorem LiteralBody.fold {closing : Char} (noLetter : closing.isAlpha = false)
    {raw value : List Char} (body : LiteralBody closing raw value) :
    ∃ other, LiteralBody closing (fold raw) other := by
  induction body with
  | nil => exact ⟨[], .nil⟩
  | @plain char _ _ inside unescaped _ inductionHypothesis =>
    rcases inductionHypothesis with ⟨other, rest⟩
    refine ⟨char.toLower :: other, .plain ?_ ?_ rest⟩
    · exact fun same => inside ((toLower_eq_iff noLetter char).mp same)
    · exact fun same => unescaped ((toLower_eq_iff (by decide) char).mp same)
  | @escaped char _ _ _ inductionHypothesis =>
    rcases inductionHypothesis with ⟨other, rest⟩
    exact ⟨unescape char.toLower :: other, .escaped rest⟩

theorem commentKind_fold (chars : List Char) : commentKind (fold chars) = commentKind chars := by
  have noLetters : ∀ sigil ∈ sigils, ∀ mark ∈ sigil.1, mark.isAlpha = false :=
    forall₂_of_all (by decide)
  have same : (sigils.find? fun sigil => sigil.1.isPrefixOf (fold chars)) =
      sigils.find? fun sigil => sigil.1.isPrefixOf chars := by
    apply List.find?_congr
    intro sigil listed
    rw [Bool.eq_iff_iff, List.isPrefixOf_iff_prefix, List.isPrefixOf_iff_prefix,
      prefix_fold_iff (noLetters sigil listed)]
  rw [commentKind, same, commentKind]

theorem attributes_fold {attributes : List Char}
    (inside : ∀ char ∈ attributes, char ≠ '\n' ∧ char ≠ ']') :
    ∀ char ∈ fold attributes, char ≠ '\n' ∧ char ≠ ']' := by
  intro char listed
  rcases List.mem_map.mp listed with ⟨original, member, rfl⟩
  rw [Ne, Ne, toLower_eq_iff (by decide), toLower_eq_iff (by decide)]
  exact inside original member

theorem marker_noLetters (tag : TagWord) : ∀ mark ∈ tag.marker, mark.isAlpha = false := by
  cases tag <;> exact forall_of_all (by decide)

theorem lineFeed_toLower (char : Char) : (char.toLower != '\n') = (char != '\n') :=
  bne_toLower (by decide) char

/-- A quote, which is no letter. -/
theorem quote_noLetter {quote : Char} (quoted : quote = '"' ∨ quote = '\'') :
    quote.isAlpha = false ∧ quote.toLower = quote := by
  rcases quoted with rfl | rfl <;> decide

/-! ## Lexemes -/

/-- A lexeme stands where it stood when the letters are made small. -/
theorem Stands.fold {lexeme : Lexeme} {after : List Char} (stands : Stands lexeme after) :
    ∃ other, Stands other (fold after) ∧ other.kind = lexeme.kind ∧
      other.raw = fold lexeme.raw := by
  cases stands with
  | newline => exact ⟨_, .newline, rfl, rfl⟩
  | outputBinding => exact ⟨_, .outputBinding, rfl, rfl⟩
  | dataBlockStart => exact ⟨_, .dataBlockStart, rfl, rfl⟩
  | dataBlockEnd => exact ⟨_, .dataBlockEnd, rfl, rfl⟩
  | tripleQuote => exact ⟨_, .tripleQuote, rfl, rfl⟩
  | schoolInvocation schoolNamed operationNamed stops =>
    refine ⟨_, .schoolInvocation (forall_fold isNameChar_toLower schoolNamed)
      (forall_fold isNameChar_toLower operationNamed) (stops.fold isNameChar_toLower), rfl, ?_⟩
    simp
  | loneSchool schoolNamed stops noColon =>
    refine ⟨_, .loneSchool (forall_fold isNameChar_toLower schoolNamed)
      (stops.fold isNameChar_toLower) (head?_fold_ne (by decide) noColon), rfl, ?_⟩
    simp
  | closedString quoted body noTriple =>
    rcases quote_noLetter quoted with ⟨noLetter, small⟩
    rcases body.fold noLetter with ⟨value, folded⟩
    refine ⟨_, .closedString quoted folded ?_, rfl, by simp [small]⟩
    intro double empty
    exact head?_fold_ne (by decide) (noTriple double (List.map_eq_nil_iff.mp empty))
  | openString quoted body =>
    rcases quote_noLetter quoted with ⟨noLetter, small⟩
    rcases body.fold noLetter with ⟨value, folded⟩
    exact ⟨_, .openString quoted folded, rfl, by simp [small]⟩
  | brokenString quoted body =>
    rcases quote_noLetter quoted with ⟨noLetter, small⟩
    rcases body.fold noLetter with ⟨value, folded⟩
    exact ⟨_, .brokenString quoted folded, rfl, by simp [small]⟩
  | @comment text _ oneLine stops =>
    refine ⟨_, .comment (forall_fold lineFeed_toLower oneLine) (stops.fold lineFeed_toLower),
      ?_, rfl⟩
    exact commentKind_fold ('/' :: '/' :: text)
  | wholeNumber nonempty numeric stops noPoint =>
    refine ⟨_, .wholeNumber ?_ (forall_fold isNumeric_toLower numeric)
      (stops.fold isNumeric_toLower) (head?_fold_ne (by decide) noPoint), rfl, rfl⟩
    exact fun empty => nonempty (List.map_eq_nil_iff.mp empty)
  | pointNumber nonempty numeric fractionNumeric stops =>
    refine ⟨_, .pointNumber ?_ (forall_fold isNumeric_toLower numeric)
      (forall_fold isNumeric_toLower fractionNumeric) (stops.fold isNumeric_toLower), rfl, ?_⟩
    · exact fun empty => nonempty (List.map_eq_nil_iff.mp empty)
    · simp
  | closedLanguage isWord tag inside =>
    refine ⟨_, .closedLanguage isWord.fold ((ofName?_fold _).trans tag) (attributes_fold inside),
      rfl, ?_⟩
    simp
  | openLanguage isWord tag inside stops =>
    refine ⟨_, .openLanguage isWord.fold ((ofName?_fold _).trans tag) (attributes_fold inside)
      (stops.fold lineFeed_toLower), rfl, ?_⟩
    simp
  | web isWord tag selects stops =>
    refine ⟨_, .web isWord.fold ((ofName?_fold _).trans tag)
      (forall_fold isSelectorChar_toLower selects) (stops.fold isSelectorChar_toLower), rfl, ?_⟩
    simp
  | quantum isWord tag oneLine stops =>
    refine ⟨_, .quantum isWord.fold ((ofName?_fold _).trans tag)
      (forall_fold lineFeed_toLower oneLine) (stops.fold lineFeed_toLower), rfl, ?_⟩
    simp
  | code isWord tag =>
    refine ⟨_, .code isWord.fold ((ofName?_fold _).trans tag), rfl, ?_⟩
    simp
  | @identifier word after isWord stops unmarked =>
    refine ⟨_, .identifier isWord.fold (stops.fold isNameChar_toLower) ?_, rfl, rfl⟩
    intro tag named marked
    rw [ofName?_fold] at named
    exact unmarked tag named ((prefix_fold_iff (marker_noLetters tag) after).mp marked)
  | @unknown char after visible noSign noNumber noWord noSchool noArrow noComment =>
    refine ⟨verbatim .unknown [char.toLower], .unknown ?_ ?_ ?_ ?_ ?_ ?_ ?_, rfl, rfl⟩
    · rw [isBlank_toLower, visible]
    · rw [isSign_toLower, noSign]
    · rw [isNumeric_toLower, noNumber]
    · rw [startsWord_toLower, noWord]
    · intro colon
      exact head?_fold_ne (by decide) (noSchool ((toLower_eq_iff (by decide) char).mp colon))
    · intro hyphen
      exact head?_fold_ne (by decide) (noArrow ((toLower_eq_iff (by decide) char).mp hyphen))
    · intro slash
      exact head?_fold_ne (by decide) (noComment ((toLower_eq_iff (by decide) char).mp slash))

end Lexeme
end Ritual
