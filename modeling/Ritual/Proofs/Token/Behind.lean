import Ritual.Proofs.Source.Position
import Ritual.Proofs.Token.Tiling

namespace Ritual

/-!
# Tokens behind other lines

Lines that are put in front of a source move its tokens down by the number of those
lines and back by their bytes, and change nothing else: behind a line feed columns
count from one again.  Reported lines wrap, and they do so in step.
-/

namespace Source

/-- Whether characters are whole lines, so that a line begins behind them. -/
def WholeLines (chars : List Char) : Prop :=
  ∀ last ∈ chars.getLast?, last = '\n'

theorem wholeLines_nil : WholeLines [] := by
  intro last impossible
  cases impossible

theorem wholeLines_append_lineFeed (chars : List Char) : WholeLines (chars ++ ['\n']) := by
  intro last found
  rw [List.getLast?_concat] at found
  exact (Option.some.inj found).symm

theorem WholeLines.append {left right : List Char} (leftLines : WholeLines left)
    (rightLines : WholeLines right) : WholeLines (left ++ right) := by
  intro last found
  rw [List.getLast?_append] at found
  cases ending : right.getLast? with
  | none =>
    rw [ending, Option.none_or] at found
    exact leftLines last found
  | some char =>
    rw [ending, Option.some_or] at found
    exact rightLines last (ending.trans found)

namespace Position

/-- The place of a source behind the characters that are put in front of it. -/
def behind (left : List Char) (position : Position) : Position :=
  ⟨byteLength left + position.offset, left.count '\n' + position.line, position.column⟩

theorem step_behind (left : List Char) (position : Position) (char : Char) :
    (position.behind left).step char = (position.step char).behind left := by
  unfold step
  split <;> simp only [behind, Nat.add_assoc]

theorem after_behind (left : List Char) (position : Position) (chars : List Char) :
    (position.behind left).after chars = (position.after chars).behind left := by
  induction chars generalizing position with
  | nil => rfl
  | cons char rest inductionHypothesis =>
    rw [after_cons, step_behind, inductionHypothesis, after_cons]

theorem start_after_lines {left : List Char} (lines : WholeLines left) :
    start.after left = start.behind left := by
  have offset := offset_after start left
  have line := line_after start left
  have column := column_after_lines lines
  generalize start.after left = place at offset line column
  cases place
  simp only at offset line column
  simp only [behind, offset, line, column, Nat.add_comm, start]

end Position
end Source

namespace Token

/-- The token of a source behind the characters that are put in front of it. -/
def behind (left : List Char) (token : Token) : Token :=
  { token with
    location := ⟨UInt32.ofNat (left.count '\n') + token.location.line, token.location.column⟩
    span := ⟨Source.byteLength left + token.span.start, Source.byteLength left + token.span.stop⟩ }

@[simp] theorem behind_kind (left : List Char) (token : Token) :
    (token.behind left).kind = token.kind := rfl

@[simp] theorem behind_text (left : List Char) (token : Token) :
    (token.behind left).text = token.text := rfl

@[simp] theorem behind_nil (token : Token) : token.behind [] = token := by
  have noLine : UInt32.ofNat 0 = 0 := rfl
  simp only [behind, Source.byteLength, List.count_nil, noLine, UInt32.zero_add, Nat.zero_add]

theorem ofLexeme_behind (left : List Char) (position : Source.Position) (lexeme : Lexeme) :
    ofLexeme (position.behind left) lexeme = (ofLexeme position lexeme).behind left := by
  simp only [ofLexeme, behind, Source.Position.location, Source.Position.after_behind]
  simp only [Source.Position.behind, UInt32.ofNat_add]

theorem endOfSource_behind (left : List Char) (position : Source.Position) :
    endOfSource (position.behind left) = (endOfSource position).behind left := by
  simp only [endOfSource, behind, Source.Position.location]
  simp only [Source.Position.behind, UInt32.ofNat_add]

end Token

namespace Tile

theorem tokens_behind (left : List Char) (position : Source.Position) (tiles : List Tile) :
    tokens (position.behind left) tiles = (tokens position tiles).map (Token.behind left) := by
  induction tiles generalizing position with
  | nil => rfl
  | cons tile rest inductionHypothesis =>
    rw [tokens_cons, tokens_cons, List.map_cons, Source.Position.after_behind,
      Source.Position.after_behind, Token.ofLexeme_behind, inductionHypothesis]

end Tile
end Ritual
