import Ritual.Proofs.Lexeme.Scan

namespace Ritual
namespace Lexeme

/-!
# What the kind of a lexeme tells

Facts about the characters of a lexeme that its kind decides.  Each is read off
the forms of the grammar, so none of them looks at the scanner.
-/

theorem commentKind_isComment (chars : List Char) : (commentKind chars).isComment = true := by
  have listed : ∀ sigil ∈ sigils, sigil.2.isComment = true := by decide
  unfold commentKind
  split
  · rename_i sigil found
    exact listed sigil (List.mem_of_find?_eq_some found)
  · rfl

theorem commentKind_ne {kind : TokenKind} (noComment : kind.isComment = false)
    (chars : List Char) : commentKind chars ≠ kind := by
  rintro rfl
  rw [commentKind_isComment] at noComment
  cases noComment

variable {lexeme : Lexeme} {after : List Char}

namespace Stands

/-- Only a literal denotes another text than the one it covers. -/
theorem text_eq_raw (stands : Stands lexeme after) (noString : lexeme.kind ≠ .string) :
    lexeme.text = lexeme.raw := by
  cases stands with
  | closedString quoted body noTriple => exact absurd rfl noString
  | openString quoted body => exact absurd rfl noString
  | brokenString quoted body => exact absurd rfl noString
  | _ => rfl

theorem kind_ne_eof (stands : Stands lexeme after) : lexeme.kind ≠ .eof := by
  cases stands with
  | comment oneLine stops => exact commentKind_ne rfl _
  | _ => exact TokenKind.noConfusion

theorem raw_of_newline (stands : Stands lexeme after) (newline : lexeme.kind = .newline) :
    lexeme.raw = ['\n'] := by
  cases stands with
  | newline => rfl
  | comment oneLine stops => exact absurd newline (commentKind_ne rfl _)
  | _ => cases newline

/-- A line end stands before anything. -/
theorem of_newline (stands : Stands lexeme after) (newline : lexeme.kind = .newline)
    (other : List Char) : Stands lexeme other := by
  cases stands with
  | newline => exact .newline
  | comment oneLine stops => exact absurd newline (commentKind_ne rfl _)
  | _ => cases newline

/-- An invocation is two colons, a school, a colon and an operation. -/
theorem raw_of_invocation (stands : Stands lexeme after)
    (invocation : lexeme.kind = .schoolInvocation) :
    ∃ school operation, lexeme.raw = ':' :: ':' :: (school ++ ':' :: operation) ∧
      (∀ char ∈ school, isNameChar char = true) ∧ ∀ char ∈ operation, isNameChar char = true := by
  cases stands with
  | schoolInvocation schoolNamed operationNamed stops =>
    exact ⟨_, _, rfl, schoolNamed, operationNamed⟩
  | comment oneLine stops => exact absurd invocation (commentKind_ne rfl _)
  | _ => cases invocation

end Stands

theorem IsWord.oneLine {word : List Char} (isWord : IsWord word) : '\n' ∉ word :=
  not_mem_of_outside (by decide) isWord.named

theorem opensBlock_of_isComment {kind : TokenKind} (comment : kind.isComment = true) :
    kind.opensBlock = false := by
  revert comment
  cases kind <;> decide

theorem Stands.raw_of_opensBlock (stands : Stands lexeme after)
    (tag : lexeme.kind.opensBlock = true) :
    ∃ word marked, lexeme.raw = word ++ marked ∧ IsWord word ∧ '\n' ∉ marked := by
  cases stands with
  | closedLanguage isWord named inside =>
    exact ⟨_, _, rfl, isWord, by simpa using fun listed => (inside '\n' listed).1 rfl⟩
  | openLanguage isWord named inside stops =>
    exact ⟨_, _, rfl, isWord, by simpa using fun listed => (inside '\n' listed).1 rfl⟩
  | web isWord named selects stops =>
    exact ⟨_, _, rfl, isWord, by simpa using fun listed => nomatch selects '\n' listed⟩
  | quantum isWord named oneLine stops =>
    exact ⟨_, _, rfl, isWord, by simpa using fun listed => nomatch oneLine '\n' listed⟩
  | code isWord named => exact ⟨_, _, rfl, isWord, by decide⟩
  | @comment text _ oneLine stops =>
    have noTag := opensBlock_of_isComment (commentKind_isComment ('/' :: '/' :: text))
    rw [verbatim_kind, noTag] at tag
    cases tag
  | _ => cases tag

/-- A tag does not reach beyond its line. -/
theorem Stands.oneLine_of_opensBlock (stands : Stands lexeme after)
    (tag : lexeme.kind.opensBlock = true) : '\n' ∉ lexeme.raw := by
  rcases stands.raw_of_opensBlock tag with ⟨word, marked, parts, isWord, oneLine⟩
  rw [parts, List.mem_append]
  rintro (inWord | inMarked)
  · exact isWord.oneLine inWord
  · exact oneLine inMarked

end Lexeme
end Ritual
