import Ritual.Proofs.Lexeme.Kind
import Ritual.Proofs.Source.Position
import Ritual.Proofs.Token.Tiling

namespace Ritual

/-!
# Where tokens stand

The reported locations of a stream increase strictly, and at the location of a
token that is no literal the source continues with the token's text.
-/

namespace Source

/-- Whether a location comes first by its line and then by its column. -/
def Location.Before (first second : Location) : Prop :=
  first.line < second.line ∨ first.line = second.line ∧ first.column < second.column

/-- Reporting keeps the order of positions that the counters can count. -/
theorem Countable.before_after {before passed after : List Char}
    (countable : Countable (before ++ passed ++ after)) (nonempty : passed ≠ []) :
    (Position.start.after before).location.Before
      (Position.start.after (before ++ passed)).location := by
  have firstCountable : Countable (before ++ (passed ++ after)) := by
    rw [← List.append_assoc]
    exact countable
  have precedes := Position.precedes_after (Position.start.after before) nonempty
  rw [← Position.after_append] at precedes
  simp only [Location.Before, UInt32.lt_iff_toNat_lt, ← UInt32.toNat_inj,
    Position.line_toNat firstCountable.line_lt, Position.line_toNat countable.line_lt,
    Position.column_toNat firstCountable.column_lt, Position.column_toNat countable.column_lt]
  exact precedes

end Source

namespace Tile

/-- A tile of a source, with the characters before and after its lexeme. -/
theorem Reading.exists_around {source : String} (reading : Reading source.toList)
    {before after : List Tile} {tile : Tile} (split : reading.tiles = before ++ tile :: after) :
    source.toList = spelling before ++ tile.gap ++
        (tile.lexeme.raw ++ (spelling after ++ reading.gap)) ∧
      Lexeme.Stands tile.lexeme (spelling after ++ reading.gap) := by
  have tiling := reading.tiling
  have spelled := reading.spelled
  rw [split] at tiling spelled
  exact ⟨spelled.trans (by simp), (tiling_append.mp tiling).2.2.1⟩

theorem tokens_ordered (left : List Char) {tiles : List Tile} {after : List Char}
    (tiling : Tiling tiles after)
    (countable : Source.Countable (left ++ (spelling tiles ++ after))) :
    (tokens (Source.Position.start.after left) tiles ++ [Token.endOfSource
        (Source.Position.start.after (left ++ (spelling tiles ++ after)))]).Pairwise
      fun first second => first.location.Before second.location := by
  induction tiles generalizing left with
  | nil => exact List.pairwise_singleton _ _
  | cons tile rest inductionHypothesis =>
    rcases tiling with ⟨_, stands, later⟩
    have parts : left ++ (spelling (tile :: rest) ++ after) =
        left ++ tile.gap ++ tile.lexeme.raw ++ (spelling rest ++ after) := by simp
    rw [parts] at countable ⊢
    rw [tokens_cons, List.cons_append, ← Source.Position.after_append,
      ← Source.Position.after_append]
    apply List.Pairwise.cons _ (inductionHypothesis _ later countable)
    intro token listed
    rcases List.mem_append.mp listed with inRest | isEnding
    · rcases exists_tile_of_mem inRest with ⟨before, other, following, rfl, rfl⟩
      have split : left ++ tile.gap ++ tile.lexeme.raw ++
          (spelling (before ++ other :: following) ++ after) =
        left ++ tile.gap ++ (tile.lexeme.raw ++ (spelling before ++ other.gap)) ++
          (other.lexeme.raw ++ spelling following ++ after) := by simp
      rw [split] at countable
      have order := countable.before_after (by simp [stands.raw_ne_nil])
      simpa only [Token.ofLexeme, Source.Position.after_append] using order
    · rw [List.mem_singleton.mp isEnding]
      have split : left ++ tile.gap ++ tile.lexeme.raw ++ (spelling rest ++ after) =
          left ++ tile.gap ++ (tile.lexeme.raw ++ (spelling rest ++ after)) ++ [] := by simp
      rw [split] at countable
      have order := countable.before_after (by simp [stands.raw_ne_nil])
      simpa only [Token.ofLexeme, Token.endOfSource, Source.Position.after_append] using order

end Tile

namespace Token

variable {source : String}

/-- The tokens of a source stand one behind the other. -/
theorem tokenize_ordered (countable : Source.Countable source.toList) :
    (tokenize source).Pairwise fun first second => first.location.Before second.location := by
  rcases Tile.exists_reading source.toList with ⟨reading⟩
  have spelled := reading.spelled
  rw [reading.tokenize_eq]
  rw [spelled] at countable
  have ordered := Tile.tokens_ordered [] reading.tiling countable
  rw [List.nil_append, ← spelled] at ordered
  exact ordered

theorem exists_tile_of_tokenize (reading : Tile.Reading source.toList) {token : Token}
    (listed : token ∈ tokenize source) (endless : token.kind ≠ .eof) :
    ∃ before tile after, reading.tiles = before ++ tile :: after ∧
      token = ofLexeme (Source.Position.start.after (Tile.spelling before ++ tile.gap))
        tile.lexeme := by
  rw [reading.tokenize_eq] at listed
  rcases List.mem_append.mp listed with inTiles | isEnding
  · exact Tile.exists_tile_of_mem inTiles
  · rw [List.mem_singleton.mp isEnding] at endless
    exact absurd rfl endless

/-- At the location of a token the source continues with its text. -/
theorem text_at_location (countable : Source.Countable source.toList) {token : Token}
    (listed : token ∈ tokenize source) (endless : token.kind ≠ .eof)
    (noString : token.kind ≠ .string) :
    token.text.toList <+: Source.textAt token.location source.toList := by
  rcases Tile.exists_reading source.toList with ⟨reading⟩
  rcases exists_tile_of_tokenize reading listed endless with ⟨before, tile, after, split, rfl⟩
  rcases reading.exists_around split with ⟨parts, stands⟩
  have text := stands.text_eq_raw noString
  have behind := Source.Countable.textAt_after (parts ▸ countable)
  rw [← parts] at behind
  simp only [ofLexeme]
  rw [behind, text, String.toList_ofList]
  exact List.prefix_append _ _

end Token
end Ritual
