import Ritual.Lexeme

namespace Ritual
namespace Token

/-!
# The token stream of a source

Scanning walks over the source once.  Blanks are passed over, every other
character begins a lexeme, and one token marks the end.  The walk carries the
position, which is a fold over the characters passed, so offsets, lines and
columns cannot get out of step.
-/

/-- The token of a lexeme found at a position. -/
def ofLexeme (position : Source.Position) (lexeme : Lexeme) : Token where
  kind := lexeme.kind
  text := String.ofList lexeme.text
  location := position.location
  span := ⟨position.offset, (position.after lexeme.raw).offset⟩

/-- The token that marks the end of a source. -/
def endOfSource (position : Source.Position) : Token where
  kind := .eof
  text := ""
  location := position.location
  span := ⟨position.offset, position.offset⟩

/-- The tokens of the characters that follow a position. -/
def streamFrom (position : Source.Position) : List Char → List Token
  | [] => [endOfSource position]
  | char :: rest =>
    if Lexeme.isBlank char then streamFrom (position.step char) rest
    else
      let lexeme := Lexeme.scan char rest
      ofLexeme position lexeme ::
        streamFrom (position.after lexeme.raw) ((char :: rest).drop lexeme.raw.length)
termination_by chars => chars.length
decreasing_by
  · simp
  · have progress := List.length_pos_iff.mpr (Lexeme.scan_raw_ne_nil char rest)
    simp only [List.length_drop, List.length_cons]
    omega

/-- The tokens of a source. -/
def tokenize (source : String) : List Token :=
  streamFrom Source.Position.start source.toList

theorem streamFrom_nil (position : Source.Position) :
    streamFrom position [] = [endOfSource position] := by
  rw [streamFrom]

theorem streamFrom_blank (position : Source.Position) {char : Char} (rest : List Char)
    (blank : Lexeme.isBlank char = true) :
    streamFrom position (char :: rest) = streamFrom (position.step char) rest := by
  rw [streamFrom, if_pos blank]

theorem streamFrom_lexeme (position : Source.Position) {char : Char} (rest : List Char)
    (visible : Lexeme.isBlank char = false) :
    streamFrom position (char :: rest) =
      ofLexeme position (Lexeme.scan char rest) ::
        streamFrom (position.after (Lexeme.scan char rest).raw)
          ((char :: rest).drop (Lexeme.scan char rest).raw.length) := by
  rw [streamFrom, if_neg (by simp [visible])]

end Token
end Ritual
