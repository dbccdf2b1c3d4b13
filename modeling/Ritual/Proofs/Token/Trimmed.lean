import Ritual.Proofs.Lexeme.Kind
import Ritual.Proofs.Source.Position
import Ritual.Proofs.Token.Tiling

namespace Ritual

/-!
# Tokens of a text without blanks at the ends of its lines

The lines of a body are cut from the source without the blanks behind their last
tokens, and the first one without its indentation if it shares the tag's line.
Cut so, the same lexemes stand in the body, because nothing but a line feed or
the end of the text comes to stand where a lexeme stood before a blank.

The positions in the body run beside those in the source.  Their lines differ by
a constant, and their columns agree behind every line feed.  A line feed itself
moves to the left by the blanks that stood in front of it; that is the only token
that does, except on the line of the tag.
-/

namespace Tile

/-! ## Cutting the blanks at line ends -/

/-- A tile without the blanks in front of a line end. -/
def trimmed (tile : Tile) : Tile :=
  if tile.lexeme.kind = .newline then ⟨[], tile.lexeme⟩ else tile

theorem trimmed_of_newline {tile : Tile} (newline : tile.lexeme.kind = .newline) :
    tile.trimmed = ⟨[], tile.lexeme⟩ :=
  if_pos newline

theorem trimmed_of_ne {tile : Tile} (noNewline : tile.lexeme.kind ≠ .newline) :
    tile.trimmed = tile :=
  if_neg noNewline

@[simp] theorem trimmed_lexeme (tile : Tile) : tile.trimmed.lexeme = tile.lexeme := by
  unfold trimmed
  split <;> rfl

/-- Tiles without the first gap, if it is to be left out. -/
def withoutFirstGap : Bool → List Tile → List Tile
  | true, first :: rest => ⟨[], first.lexeme⟩ :: rest
  | _, tiles => tiles

/-- What trimming puts behind a lexeme may follow it. -/
theorem mayFollow_trimmed {tiles : List Tile} {after replacement : List Char}
    (tiling : Tiling tiles after) (follows : Lexeme.MayFollow after replacement) :
    Lexeme.MayFollow (spelling tiles ++ after) (spelling (tiles.map trimmed) ++ replacement) := by
  induction tiles with
  | nil => exact follows
  | cons tile rest inductionHypothesis =>
    rcases tiling with ⟨_, stands, later⟩
    by_cases newline : tile.lexeme.kind = .newline
    · -- a line feed comes to stand where its gap did, and it ends every lexeme but a literal
      have raw := stands.raw_of_newline newline
      rw [List.map_cons, trimmed_of_newline newline, spelling_cons, spelling_cons, raw]
      exact Lexeme.MayFollow.newline (by simp) _
    · rw [List.map_cons, trimmed_of_ne newline]
      simp only [spelling_cons, List.append_assoc]
      exact ((inductionHypothesis later).append _).append _

theorem tiling_trimmed {tiles : List Tile} {after replacement : List Char}
    (tiling : Tiling tiles after) (follows : Lexeme.MayFollow after replacement) :
    Tiling (tiles.map trimmed) replacement := by
  induction tiles with
  | nil => trivial
  | cons tile rest inductionHypothesis =>
    rcases tiling with ⟨blank, stands, later⟩
    refine ⟨?_, ?_, inductionHypothesis later⟩
    · unfold trimmed
      split
      · exact blank_nil
      · exact blank
    · rw [trimmed_lexeme]
      exact stands.replace (mayFollow_trimmed later follows)

theorem tiling_withoutFirstGap {tiles : List Tile} {after : List Char}
    (tiling : Tiling tiles after) (leaveOut : Bool) :
    Tiling (withoutFirstGap leaveOut tiles) after := by
  cases leaveOut with
  | false => exact tiling
  | true =>
    cases tiles with
    | nil => trivial
    | cons first rest =>
      rcases tiling with ⟨_, stands, later⟩
      exact ⟨blank_nil, stands, later⟩

theorem Blank.oneLine {gap : List Char} (blank : Blank gap) : '\n' ∉ gap := by
  intro listed
  cases blank '\n' listed

theorem Blank.byteLength_eq {gap : List Char} (blank : Blank gap) :
    Source.byteLength gap = gap.length := by
  induction gap with
  | nil => rfl
  | cons char rest inductionHypothesis =>
    have first := blank char List.mem_cons_self
    have single : char.utf8Size = 1 := by
      simp only [Lexeme.isBlank, Bool.or_eq_true, beq_iff_eq] at first
      rcases first with (rfl | rfl) | rfl <;> rfl
    rw [Source.byteLength, single,
      inductionHypothesis fun other listed => blank other (List.mem_cons_of_mem _ listed),
      List.length_cons, Nat.add_comm]

end Tile

/-! ## Positions in the source and in the body -/

/-- A position in a source and the position of the same place in a body.  The
line of the tag is the one on which columns need not agree. -/
structure Aligned (tagLine offset : Nat) (original again : Source.Position) : Prop where
  line : again.line + offset = original.line
  column : original.line ≠ tagLine → again.column = original.column
  within : again.column ≤ original.column

namespace Aligned

variable {tagLine offset : Nat} {original again : Source.Position}

/-- Behind a line feed columns agree, whatever they were before. -/
theorem lineFeed (line : again.line + offset = original.line) :
    Aligned tagLine offset (original.step '\n') (again.step '\n') where
  line := by
    simp only [Source.Position.step, if_true]
    omega
  column := fun _ => rfl
  within := Nat.le_refl 1

theorem step (aligned : Aligned tagLine offset original again) (char : Char) :
    Aligned tagLine offset (original.step char) (again.step char) := by
  by_cases same : char = '\n'
  · rw [same]
    exact lineFeed aligned.line
  · unfold Source.Position.step
    rw [if_neg same, if_neg same]
    exact ⟨aligned.line, fun elsewhere => congrArg (· + 1) (aligned.column elsewhere),
      Nat.add_le_add_right aligned.within 1⟩

theorem after (aligned : Aligned tagLine offset original again) (chars : List Char) :
    Aligned tagLine offset (original.after chars) (again.after chars) := by
  induction chars generalizing original again with
  | nil => exact aligned
  | cons char rest inductionHypothesis => exact inductionHypothesis (aligned.step char)

end Aligned

/-! ## Tokens in the source and in the body -/

namespace Token

/-- Tokens with the numbers of bytes between each and the one before it, if the
one before the first ends at an offset. -/
def withGaps : Nat → List Token → List (Nat × Token)
  | _, [] => []
  | stop, token :: rest => (token.span.start - stop, token) :: withGaps token.span.stop rest

/-- A token of a body, compared with the token of the source that it was and the
gap in front of that.  A line end is moved by the gap, which is not in the body;
no other token changes its column, unless it stands on the line of the tag. -/
structure Moved (tag : Token) (offset : Nat) (original : Nat × Token) (again : Token) : Prop where
  kind : again.kind = original.2.kind
  text : again.text = original.2.text
  line : again.location.line.toNat + offset = original.2.location.line.toNat
  column : original.2.location.line ≠ tag.location.line →
    again.location.column.toNat + (if original.2.kind = .newline then original.1 else 0) =
      original.2.location.column.toNat

theorem Moved.of_gap {tag original again : Token} {offset gap other : Nat}
    (moved : Moved tag offset (gap, original) again) (noNewline : original.kind ≠ .newline) :
    Moved tag offset (other, original) again where
  kind := moved.kind
  text := moved.text
  line := moved.line
  column := by
    have column := moved.column
    simp only [if_neg noNewline] at column ⊢
    exact column

end Token

namespace Tile

/-- How far a token is moved to the left by trimming. -/
def cut (tile : Tile) : Nat :=
  if tile.lexeme.kind = .newline then tile.gap.length else 0

/-- Positions that are aligned before a gap are so behind it, up to what trimming
cuts away. -/
theorem aligned_gap {tagLine offset : Nat} {original again : Source.Position}
    (aligned : Aligned tagLine offset original again) {tile : Tile} (blank : Blank tile.gap) :
    (again.after tile.trimmed.gap).line + offset = (original.after tile.gap).line ∧
      ((original.after tile.gap).line ≠ tagLine →
        (again.after tile.trimmed.gap).column + tile.cut = (original.after tile.gap).column) ∧
      (again.after tile.trimmed.gap).column ≤ (original.after tile.gap).column := by
  by_cases newline : tile.lexeme.kind = .newline
  · have line := original.line_after_of_oneLine blank.oneLine
    have column := original.column_after_of_oneLine blank.oneLine
    rw [trimmed_of_newline newline, cut, if_pos newline, line, column,
      Source.Position.after_nil]
    exact ⟨aligned.line, fun elsewhere => congrArg (· + tile.gap.length) (aligned.column elsewhere),
      Nat.le_add_right_of_le aligned.within⟩
  · have same := aligned.after tile.gap
    rw [trimmed_of_ne newline, cut, if_neg newline]
    exact ⟨same.line, same.column, same.within⟩

theorem aligned_tile {tagLine offset : Nat} {original again : Source.Position}
    (aligned : Aligned tagLine offset original again) {tile : Tile} {after : List Char}
    (blank : Blank tile.gap) (stands : Lexeme.Stands tile.lexeme after) :
    Aligned tagLine offset ((original.after tile.gap).after tile.lexeme.raw)
      ((again.after tile.trimmed.gap).after tile.lexeme.raw) := by
  by_cases newline : tile.lexeme.kind = .newline
  · rw [stands.raw_of_newline newline]
    exact Aligned.lineFeed (aligned_gap aligned blank).1
  · rw [trimmed_of_ne newline]
    exact (aligned.after tile.gap).after tile.lexeme.raw

theorem moved_token {tag : Token} {tagLine offset : Nat}
    (onLine : tag.location.line.toNat = tagLine) {tile : Tile} {left after : List Char}
    (countable : Source.Countable (left ++ tile.gap ++ after)) (blank : Blank tile.gap)
    {again : Source.Position}
    (aligned : Aligned tagLine offset (Source.Position.start.after left) again) :
    Token.Moved tag offset
      (tile.gap.length, Token.ofLexeme (Source.Position.start.after (left ++ tile.gap)) tile.lexeme)
      (Token.ofLexeme (again.after tile.trimmed.gap) tile.lexeme) := by
  rcases aligned_gap aligned blank with ⟨line, column, within⟩
  have lineSmall := countable.line_lt
  have columnSmall := countable.column_lt
  rw [Source.Position.after_append] at lineSmall columnSmall ⊢
  have lineAgain : (again.after tile.trimmed.gap).line < UInt32.size := by omega
  have columnAgain : (again.after tile.trimmed.gap).column < UInt32.size := by omega
  refine ⟨rfl, rfl, ?_, ?_⟩
  · simp only [Token.ofLexeme, Source.Position.line_toNat lineSmall,
      Source.Position.line_toNat lineAgain]
    exact line
  · intro elsewhere
    simp only [Token.ofLexeme, Source.Position.column_toNat columnSmall,
      Source.Position.column_toNat columnAgain]
    apply column
    intro same
    apply elsewhere
    apply UInt32.toNat_inj.mp
    rw [onLine]
    simp only [Token.ofLexeme, Source.Position.line_toNat lineSmall, same]

/-- The tokens of trimmed tiles are the tokens of the tiles, moved. -/
theorem moved_tokens {tag : Token} {tagLine offset : Nat}
    (onLine : tag.location.line.toNat = tagLine) {tiles : List Tile} {left after : List Char}
    (countable : Source.Countable (left ++ (spelling tiles ++ after))) (tiling : Tiling tiles after)
    {again : Source.Position}
    (aligned : Aligned tagLine offset (Source.Position.start.after left) again) :
    List.Forall₂ (Token.Moved tag offset)
      (Token.withGaps (Source.Position.start.after left).offset
        (tokens (Source.Position.start.after left) tiles))
      (tokens again (tiles.map trimmed)) := by
  -- both positions move on with the tiles, and they are aligned behind each of them
  induction tiles generalizing left again with
  | nil => exact .nil
  | cons tile rest inductionHypothesis =>
    rcases tiling with ⟨blank, stands, later⟩
    have countableHere : Source.Countable
        (left ++ tile.gap ++ (tile.lexeme.raw ++ (spelling rest ++ after))) := by
      simpa using countable
    have countableLater : Source.Countable
        (left ++ tile.gap ++ tile.lexeme.raw ++ (spelling rest ++ after)) := by
      simpa using countable
    have here := moved_token onLine countableHere blank aligned
    have alignedLater : Aligned tagLine offset
        (Source.Position.start.after (left ++ tile.gap ++ tile.lexeme.raw))
        ((again.after tile.trimmed.gap).after tile.lexeme.raw) := by
      rw [Source.Position.after_append, Source.Position.after_append]
      exact aligned_tile aligned blank stands
    have behind := inductionHypothesis countableLater later alignedLater
    have gapLength : (Source.Position.start.after (left ++ tile.gap)).offset -
        (Source.Position.start.after left).offset = tile.gap.length := by
      rw [Source.Position.after_append, Source.Position.offset_after, blank.byteLength_eq]
      omega
    rw [Source.Position.after_append] at here gapLength
    rw [Source.Position.after_append, Source.Position.after_append] at behind
    rw [tokens_cons, List.map_cons, tokens_cons, trimmed_lexeme, Token.withGaps]
    refine .cons ?_ behind
    simp only [Token.ofLexeme, gapLength]
    exact here

end Tile
end Ritual
