import Ritual.Proofs.Lexeme.Agreement
import Ritual.Proofs.Token.Coverage

namespace Ritual
namespace Token

/-!
# Every token is one that the grammar allows

The grammar is asked about the characters under a token's span, about the token's text
and about what follows the span.  It allows the token there, and nothing else.
-/

/-- A token that the grammar allows where it stands in a source, as the only one. -/
def AllowedIn (source : List Char) (token : Token) : Prop :=
  ∃ before raw after, source = before ++ (raw ++ after) ∧
    token.span = ⟨Source.byteLength before, Source.byteLength before + Source.byteLength raw⟩ ∧
    Lexeme.Allows token.kind raw token.text.toList after ∧
    ∀ kind other text rest, raw ++ after = other ++ rest → Lexeme.Allows kind other text rest →
      kind = token.kind ∧ other = raw ∧ text = token.text.toList

theorem allowedIn_of_allows {source before raw after : List Char} {token : Token}
    (parts : source = before ++ (raw ++ after))
    (span : token.span =
      ⟨Source.byteLength before, Source.byteLength before + Source.byteLength raw⟩)
    (allows : Lexeme.Allows token.kind raw token.text.toList after) : AllowedIn source token := by
  refine ⟨before, raw, after, parts, span, allows, ?_⟩
  intro kind other text rest same otherAllows
  exact otherAllows.unique allows same.symm

/-- The tokens of a source are those that the grammar allows. -/
theorem tokenize_allowed (source : String) :
    ∀ token ∈ tokenize source, AllowedIn source.toList token := by
  intro token listed
  rcases Tile.exists_reading source.toList with ⟨reading⟩
  rcases (mem_tokenize reading).mp listed with inTiles | rfl
  · rcases reading.exists_stands inTiles with ⟨front, lexeme, rest, parts, stands, rfl⟩
    apply allowedIn_of_allows parts (Tile.span_ofLexeme front lexeme)
    simp only [ofLexeme, String.toList_ofList]
    exact (Lexeme.stands_iff_allows stands.kind_ne_eof).mp stands
  · have whole : source.toList = source.toList ++ ([] ++ []) := (List.append_nil _).symm
    apply allowedIn_of_allows whole
    · rw [span_endOfSource, Source.byteLength_toList]
      rfl
    · exact Lexeme.allows_eof_iff.mpr ⟨rfl, rfl, rfl⟩

/-- A comment with two sigils of which one begins the other, behind an identifier. -/
theorem tokenize_allowed_guardian :
    (⟨.commentGuardian, "//!?now", ⟨1, 3⟩, ⟨2, 9⟩⟩ : Token) ∈ tokenize "x //!?now\n" ∧
      AllowedIn "x //!?now\n".toList ⟨.commentGuardian, "//!?now", ⟨1, 3⟩, ⟨2, 9⟩⟩ := by
  have listed : (⟨.commentGuardian, "//!?now", ⟨1, 3⟩, ⟨2, 9⟩⟩ : Token) ∈
      tokenize "x //!?now\n" := by
    decide +kernel
  exact ⟨listed, tokenize_allowed _ _ listed⟩

end Token
end Ritual
