import Ritual.Proofs.Line.Joined
import Ritual.Proofs.Source.Bytes

namespace Ritual
namespace Line

/-!
# Literals that are read as their values

A value is written as a literal with a table of its own for the characters that need a
backslash, and the scanner undoes it with another one.  Between the quotes every character
of the value is in the middle of the literal, so no character ends it early, and the
closing quote ends it.  Behind it anything may stand, except for a third quote behind the
two of an empty value.
-/

/-- Two quotes and a third one are no literal. -/
theorem not_stands_literalFor_empty {after : List Char} (third : after.head? = some '"') :
    ¬Lexeme.Stands (literalFor "") after := by
  intro stands
  rcases List.head?_eq_some_iff.mp third with ⟨rest, rfl⟩
  have three : Lexeme.Stands (Lexeme.verbatim .tripleQuote ['"', '"', '"']) rest := .tripleQuote
  have same := congrArg Lexeme.kind (stands.unique three rfl)
  cases same

theorem stands_literalFor_iff {value : String} {after : List Char} :
    Lexeme.Stands (literalFor value) after ↔ (value = "" → after.head? ≠ some '"') := by
  refine ⟨?_, stands_literalFor⟩
  rintro stands rfl third
  exact not_stands_literalFor_empty third stands

/-- The token of a literal at the beginning of a source: the value, and all bytes from the
opening quote to the closing one. -/
theorem ofLexeme_literalFor (value : String) :
    Token.ofLexeme Source.Position.start (literalFor value) =
      ⟨.string, value, ⟨1, 1⟩, ⟨0, (requote value).utf8ByteSize⟩⟩ := by
  have text : String.ofList value.toList = value := String.ofList_toList
  have zero : Source.Position.start.offset = 0 := rfl
  simp only [Token.ofLexeme, literalFor, text, Source.Position.offset_after,
    Source.byteLength_toList, zero, Nat.zero_add]
  rfl

/-- A literal that is written for a value is read as the value, from the opening quote to the
closing one, and what stands behind it is read on its own. -/
theorem requote_read_back (value rest : String) (noQuote : rest.toList.head? ≠ some '"') :
    Token.tokenize (requote value ++ rest) =
        ⟨.string, value, ⟨1, 1⟩, ⟨0, (requote value).utf8ByteSize⟩⟩ ::
          Token.streamFrom (Source.Position.start.after (requote value).toList) rest.toList ∧
      Source.slice? (requote value ++ rest).toList 0 (requote value).utf8ByteSize =
        some (requote value).toList := by
  have stands : Lexeme.Stands (literalFor value) rest.toList :=
    stands_literalFor_iff.mpr fun _ => noQuote
  constructor
  · rw [Token.tokenize, String.toList_append, ← ofLexeme_literalFor, ← raw_literalFor]
    exact Token.streamFrom_stands _ stands
  · have cut := Source.slice?_append [] (requote value).toList rest.toList
    rw [String.toList_append, ← Source.byteLength_toList]
    simpa [Source.byteLength] using cut

/-- A value with a quote, a backslash, a line feed and the look of an escape, in front of a
letter, and an empty value in front of a literal between single quotes. -/
theorem requote_read_back_escaped :
    let value := "\"\\\n\\n"
    ("x".toList.head? ≠ some '"' ∧ requote value = "\"\\\"\\\\\\n\\\\n\"" ∧
      Token.tokenize (requote value ++ "x") =
        [⟨.string, value, ⟨1, 1⟩, ⟨0, 11⟩⟩, ⟨.identifier, "x", ⟨1, 12⟩, ⟨11, 12⟩⟩,
          ⟨.eof, "", ⟨1, 13⟩, ⟨12, 12⟩⟩]) ∧
    "'".toList.head? ≠ some '"' ∧
      Token.tokenize (requote "" ++ "'") =
        [⟨.string, "", ⟨1, 1⟩, ⟨0, 2⟩⟩, ⟨.string, "", ⟨1, 3⟩, ⟨2, 3⟩⟩,
          ⟨.eof, "", ⟨1, 4⟩, ⟨3, 3⟩⟩] := by
  intro value
  have letter : "x".toList.head? ≠ some '"' := by decide
  have single : "'".toList.head? ≠ some '"' := by decide
  refine ⟨⟨letter, by decide, (requote_read_back value "x" letter).1.trans ?_⟩, single,
    (requote_read_back "" "'" single).1.trans ?_⟩
  · decide +kernel
  · decide +kernel

end Line
end Ritual
