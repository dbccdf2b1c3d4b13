import Ritual.Proofs.Lexeme.Forms

namespace Ritual
namespace Lexeme

/-!
# The descriptions agree with the relation

A lexeme stands before some characters exactly if the grammar allows it there.  The
scanner reads one lexeme at a place, so the grammar allows at most one: no two of its
kinds overlap, and none of its tokens can be read as a shorter one.
-/

theorem Form.stands {kind : TokenKind} {raw text after : List Char}
    (form : Form kind raw text after) (endless : kind ≠ .eof) : Stands ⟨kind, raw, text⟩ after := by
  rcases form with ⟨shape, denotes⟩
  by_cases isString : kind = .string
  · subst isString
    exact IsLiteral.stands shape
  obtain rfl := denotes isString
  cases kind with
  | schoolInvocation =>
    rcases shape with ⟨school, operation, rfl, schoolNamed, operationNamed, stops⟩
    exact .schoolInvocation schoolNamed operationNamed stops
  | outputBinding =>
    obtain rfl : text = ['-', '>'] := shape
    exact .outputBinding
  | dataBlockStart =>
    obtain rfl : text = ['\x7b'] := shape
    exact .dataBlockStart
  | dataBlockEnd =>
    obtain rfl : text = ['\x7d'] := shape
    exact .dataBlockEnd
  | tripleQuote =>
    obtain rfl : text = ['"', '"', '"'] := shape
    exact .tripleQuote
  | languageParam => exact IsLanguageTag.stands shape
  | webParam => exact IsWebTag.stands shape
  | quantumParam => exact IsQuantumTag.stands shape
  | commentDoc => exact IsComment.stands shape
  | commentGuardian => exact IsComment.stands shape
  | commentPrereq => exact IsComment.stands shape
  | commentLove => exact IsComment.stands shape
  | commentDrift => exact IsComment.stands shape
  | commentWild => exact IsComment.stands shape
  | commentStandard => exact IsComment.stands shape
  | string => exact absurd rfl isString
  | number => exact IsWholeNumber.stands shape
  | identifier => exact IsIdentifier.stands shape
  | newline =>
    obtain rfl : text = ['\n'] := shape
    exact .newline
  | eof => exact absurd rfl endless
  | unknown =>
    rcases shape with ⟨school, rfl, schoolNamed, stops, noColon⟩
    exact .loneSchool schoolNamed stops noColon

theorem form_of_shape {kind : TokenKind} {raw after : List Char}
    (shape : Shape kind raw raw after) : Form kind raw raw after :=
  ⟨shape, fun _ => rfl⟩

theorem IsComment.form {kind : TokenKind} {raw after : List Char}
    (comment : IsComment kind raw after) : Form kind raw raw after := by
  have isComment : kind.isComment = true := by
    rw [comment.2.2.2.unique (hasSigilOf_commentKind raw)]
    exact commentKind_isComment raw
  apply form_of_shape
  cases kind with
  | commentDoc => exact comment
  | commentGuardian => exact comment
  | commentPrereq => exact comment
  | commentLove => exact comment
  | commentDrift => exact comment
  | commentWild => exact comment
  | commentStandard => exact comment
  | _ => cases isComment

/-- What stands has one of the forms, unless it is a single unknown character. -/
theorem Stands.form_or_single {lexeme : Lexeme} {after : List Char}
    (stands : Stands lexeme after) :
    Form lexeme.kind lexeme.raw lexeme.text after ∨
      ∃ char, lexeme = verbatim .unknown [char] ∧ isBlank char = false := by
  cases stands with
  | newline => exact Or.inl (form_of_shape rfl)
  | outputBinding => exact Or.inl (form_of_shape rfl)
  | dataBlockStart => exact Or.inl (form_of_shape rfl)
  | dataBlockEnd => exact Or.inl (form_of_shape rfl)
  | tripleQuote => exact Or.inl (form_of_shape rfl)
  | schoolInvocation schoolNamed operationNamed stops =>
    exact Or.inl (form_of_shape ⟨_, _, rfl, schoolNamed, operationNamed, stops⟩)
  | loneSchool schoolNamed stops noColon =>
    exact Or.inl (form_of_shape ⟨_, rfl, schoolNamed, stops, noColon⟩)
  | closedString quoted body noTriple =>
    exact Or.inl ⟨isLiteral_closed quoted body noTriple, fun noString => absurd rfl noString⟩
  | openString quoted body =>
    have literal := isLiteral_open quoted body (Or.inl rfl)
    rw [List.append_nil] at literal
    exact Or.inl ⟨literal, fun noString => absurd rfl noString⟩
  | brokenString quoted body =>
    exact Or.inl ⟨isLiteral_open quoted body (Or.inr rfl), fun noString => absurd rfl noString⟩
  | comment oneLine stops => exact Or.inl (isComment_commentKind oneLine stops).form
  | wholeNumber nonempty numeric stops noPoint =>
    exact Or.inl (form_of_shape (isWholeNumber_digits nonempty numeric stops noPoint))
  | pointNumber nonempty numeric fractionNumeric stops =>
    exact Or.inl (form_of_shape (isWholeNumber_fraction nonempty numeric fractionNumeric stops))
  | closedLanguage isWord tag inside =>
    exact Or.inl (form_of_shape (isLanguageTag_attributes tag inside (Or.inl rfl)))
  | openLanguage isWord tag inside stops =>
    have ended := atLineEnd_iff_stops.mpr stops
    exact Or.inl (form_of_shape (isLanguageTag_attributes tag inside (Or.inr ⟨rfl, ended⟩)))
  | web isWord tag selects stops =>
    exact Or.inl (form_of_shape (isWebTag_selector tag selects stops))
  | quantum isWord tag oneLine stops =>
    exact Or.inl (form_of_shape (isQuantumTag_line tag oneLine stops))
  | code isWord tag => exact Or.inl (form_of_shape (isLanguageTag_code tag after))
  | identifier isWord stops unmarked =>
    exact Or.inl (form_of_shape (isIdentifier_of_isWord isWord stops unmarked))
  | unknown visible => exact Or.inr ⟨_, rfl, visible⟩

/-- No form of an unknown token is a single character. -/
theorem not_isLoneSchool_single (char : Char) (after : List Char) :
    ¬IsLoneSchool [char] after := by
  rintro ⟨school, parts, _⟩
  cases parts

/-- A single character that stands is one at which no form begins. -/
theorem Stands.isStray {char : Char} {after : List Char}
    (stands : Stands (verbatim .unknown [char]) after) (visible : isBlank char = false) :
    IsStray .unknown [char] [char] after := by
  refine ⟨rfl, rfl, char, rfl, visible, ?_⟩
  intro kind raw text rest parts form
  have endless : kind ≠ .eof := by
    rintro rfl
    rcases form.1 with ⟨rfl, rfl⟩
    cases parts
  have same := stands.unique (form.stands endless) parts
  cases same
  exact not_isLoneSchool_single char rest form.1

theorem IsStray.stands {kind : TokenKind} {raw text after : List Char}
    (stray : IsStray kind raw text after) : Stands ⟨kind, raw, text⟩ after := by
  rcases stray with ⟨rfl, rfl, char, rfl, visible, formless⟩
  rcases exists_stands after visible with ⟨lexeme, remaining, parts, stands⟩
  rcases stands.form_or_single with form | ⟨other, rfl, _⟩
  · exact absurd form (formless _ _ _ _ parts)
  · rcases List.cons.inj parts with ⟨rfl, rfl⟩
    exact stands

/-- The lexemes that stand are those that the grammar allows. -/
theorem stands_iff_allows {kind : TokenKind} {raw text after : List Char} (endless : kind ≠ .eof) :
    Stands ⟨kind, raw, text⟩ after ↔ Allows kind raw text after := by
  constructor
  · intro stands
    rcases stands.form_or_single with form | ⟨char, same, visible⟩
    · exact Or.inl form
    · cases same
      exact Or.inr (stands.isStray visible)
  · rintro (form | stray)
    · exact form.stands endless
    · exact stray.stands

/-- The end is allowed at the end only. -/
theorem allows_eof_iff {raw text after : List Char} :
    Allows .eof raw text after ↔ raw = [] ∧ text = [] ∧ after = [] := by
  constructor
  · rintro (⟨⟨rfl, rfl⟩, denotes⟩ | ⟨impossible, _⟩)
    · exact ⟨rfl, denotes (by decide), rfl⟩
    · cases impossible
  · rintro ⟨rfl, rfl, rfl⟩
    exact Or.inl (form_of_shape ⟨rfl, rfl⟩)

/-- At most one token is allowed before what follows it. -/
theorem Allows.unique {firstKind secondKind : TokenKind}
    {firstRaw firstText firstAfter secondRaw secondText secondAfter : List Char}
    (left : Allows firstKind firstRaw firstText firstAfter)
    (right : Allows secondKind secondRaw secondText secondAfter)
    (same : firstRaw ++ firstAfter = secondRaw ++ secondAfter) :
    firstKind = secondKind ∧ firstRaw = secondRaw ∧ firstText = secondText := by
  by_cases firstEnds : firstKind = .eof
  · subst firstEnds
    rcases allows_eof_iff.mp left with ⟨rfl, rfl, rfl⟩
    rcases List.append_eq_nil_iff.mp same.symm with ⟨rfl, rfl⟩
    by_cases secondEnds : secondKind = .eof
    · subst secondEnds
      exact ⟨rfl, rfl, (allows_eof_iff.mp right).2.1.symm⟩
    · have stands := (stands_iff_allows secondEnds).mpr right
      rcases stands.scan_eq with ⟨char, rest, parts, _⟩
      cases parts
  · have stands := (stands_iff_allows firstEnds).mpr left
    by_cases secondEnds : secondKind = .eof
    · subst secondEnds
      rcases allows_eof_iff.mp right with ⟨rfl, rfl, rfl⟩
      rcases List.append_eq_nil_iff.mp same with ⟨rfl, rfl⟩
      rcases stands.scan_eq with ⟨char, rest, parts, _⟩
      cases parts
    · have equal := stands.unique ((stands_iff_allows secondEnds).mpr right) same
      cases equal
      exact ⟨rfl, rfl, rfl⟩

end Lexeme
end Ritual
