import Ritual.Invocation
import Ritual.Proofs.Token.Located

namespace Ritual
namespace Invocation

/-!
# Invocations of a source

The view of a token as an invocation can fail for a token list of any origin.  It
does not fail on a token that was read from a source: the school and the operation
of such a token are names, so the first colon behind the leading ones parts them.
-/

/-- The text of an invocation. -/
def text (invocation : Invocation) : String :=
  "::" ++ invocation.school ++ ":" ++ invocation.operation

theorem no_colon_of_named {name : List Char}
    (named : ∀ char ∈ name, Lexeme.isNameChar char = true) : ':' ∉ name :=
  Lexeme.not_mem_of_outside (by decide) named

theorem names?_of_named {school operation : List Char}
    (schoolNamed : ∀ char ∈ school, Lexeme.isNameChar char = true) :
    names? (':' :: ':' :: (school ++ ':' :: operation)) =
      some (String.ofList school, String.ofList operation) := by
  have noColon := Lexeme.not_mem_iff_bne.mp (no_colon_of_named schoolNamed)
  have stops : Lexeme.Stops (· != ':') (':' :: operation) := Lexeme.stops_cons.mpr rfl
  rw [names?, Lexeme.dropWhile_of_stops noColon stops, Lexeme.takeWhile_of_stops noColon stops]

theorem ofToken?_eq_some {token : Token} {invocation : Invocation}
    (found : ofToken? token = some invocation) :
    token.kind = .schoolInvocation ∧ invocation.location = token.location := by
  unfold ofToken? at found
  split at found
  · rename_i kind
    rcases Option.map_eq_some_iff.mp found with ⟨names, _, rfl⟩
    exact ⟨kind, rfl⟩
  · cases found

/-- Every invocation token of a source is the invocation of the two names that its text
is made of. -/
theorem exists_named {source : String} {token : Token} (listed : token ∈ Token.tokenize source)
    (kind : token.kind = .schoolInvocation) :
    ∃ invocation, ofToken? token = some invocation ∧ token.text = invocation.text ∧
      (∀ char ∈ invocation.school.toList, Lexeme.isNameChar char = true) ∧
      ∀ char ∈ invocation.operation.toList, Lexeme.isNameChar char = true := by
  rcases Tile.exists_reading source.toList with ⟨reading⟩
  have endless : token.kind ≠ .eof := by
    rw [kind]
    exact TokenKind.noConfusion
  rcases Token.exists_tile_of_tokenize reading listed endless with
    ⟨before, tile, after, split, rfl⟩
  rcases reading.exists_around split with ⟨_, stands⟩
  have tileKind : tile.lexeme.kind = .schoolInvocation := kind
  have noString : tile.lexeme.kind ≠ .string := by
    rw [tileKind]
    exact TokenKind.noConfusion
  rcases stands.raw_of_invocation tileKind with
    ⟨school, operation, raw, schoolNamed, operationNamed⟩
  have spelled : tile.lexeme.text = ':' :: ':' :: (school ++ ':' :: operation) :=
    (stands.text_eq_raw noString).trans raw
  refine ⟨⟨String.ofList school, String.ofList operation,
    (Source.Position.start.after (Tile.spelling before ++ tile.gap)).location⟩, ?_, ?_, ?_, ?_⟩
  · rw [ofToken?, if_pos kind]
    simp only [Token.ofLexeme, String.toList_ofList, spelled]
    rw [names?_of_named schoolNamed]
    rfl
  · apply String.toList_injective
    simp [Token.ofLexeme, spelled, text]
  · rw [String.toList_ofList]
    exact schoolNamed
  · rw [String.toList_ofList]
    exact operationNamed

/-- Every invocation token of a source is the invocation that its text is. -/
theorem exists_ofToken? {source : String} {token : Token} (listed : token ∈ Token.tokenize source)
    (kind : token.kind = .schoolInvocation) :
    ∃ invocation, ofToken? token = some invocation ∧ token.text = invocation.text := by
  rcases exists_named listed kind with ⟨invocation, view, spelled, _⟩
  exact ⟨invocation, view, spelled⟩

end Invocation
end Ritual
