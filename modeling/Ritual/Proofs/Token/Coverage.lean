import Ritual.Proofs.Lexeme.Kind
import Ritual.Proofs.Source.Bytes
import Ritual.Proofs.Token.Tiling

namespace Ritual

/-!
# What the spans of a token list cover

The spans of a source's tokens are in order and leave out nothing but blanks, and
none of them cuts a character in two.  One token marks the end; every other token
covers something.  A token that is no literal says what it covers.
-/

namespace Source

/-- Whether a span has a byte. -/
def Span.Has (span : Span) (offset : Nat) : Prop :=
  span.start ≤ offset ∧ offset < span.stop

instance (span : Span) (offset : Nat) : Decidable (span.Has offset) :=
  inferInstanceAs (Decidable (_ ∧ _))

/-- Whether a character is a space, a tab or a carriage return. -/
def IsGap (char : Char) : Prop :=
  char = ' ' ∨ char = '\t' ∨ char = '\r'

theorem isBlank_iff_isGap {char : Char} : Lexeme.isBlank char = true ↔ IsGap char := by
  simp only [Lexeme.isBlank, Bool.or_eq_true, beq_iff_eq, or_assoc, IsGap]

end Source

namespace Token

/-- The end of a stream is marked once, where the source ends. -/
structure Ends (source : String) (tokens : List Token) (ending : Token) : Prop where
  kind : ending.kind = .eof
  text : ending.text = ""
  span : ending.span = ⟨source.utf8ByteSize, source.utf8ByteSize⟩
  once : ∀ token ∈ tokens, token.kind ≠ .eof

/-- A token whose span is cut out of a source. -/
structure InSource (source : List Char) (token : Token) : Prop where
  start : Source.IsBoundary source token.span.start
  stop : Source.IsBoundary source token.span.stop
  text : token.kind ≠ .string →
    Source.slice? source token.span.start token.span.stop = some token.text.toList

/-- Tokens that cover a source, up to its blanks. -/
structure Covers (source : String) (tokens : List Token) : Prop where
  ended : ∃ front ending, tokens = front ++ [ending] ∧ Ends source front ending
  nonempty : ∀ token ∈ tokens, token.kind ≠ .eof → token.span.start < token.span.stop
  inSource : ∀ token ∈ tokens, InSource source.toList token
  ordered : tokens.Pairwise fun first second => first.span.stop ≤ second.span.start
  gaps : ∀ offset < source.utf8ByteSize, (∀ token ∈ tokens, ¬token.span.Has offset) →
    Source.ByteOf Source.IsGap source.toList offset

end Token

namespace Tile

theorem Blank.isGap {gap : List Char} (blank : Blank gap) : ∀ char ∈ gap, Source.IsGap char :=
  fun char listed => Source.isBlank_iff_isGap.mp (blank char listed)

/-! ## One token -/

/-- The span of a token that is read where it stands. -/
theorem span_ofLexeme (left : List Char) (lexeme : Lexeme) :
    (Token.ofLexeme (Source.Position.start.after left) lexeme).span =
      ⟨Source.byteLength left, Source.byteLength left + Source.byteLength lexeme.raw⟩ := by
  have zero : Source.Position.start.offset = 0 := rfl
  simp only [Token.ofLexeme, Source.Position.offset_after, zero, Nat.zero_add]

theorem inSource_ofLexeme {source left after : List Char} {lexeme : Lexeme}
    (parts : source = left ++ (lexeme.raw ++ after)) (stands : Lexeme.Stands lexeme after) :
    Token.InSource source (Token.ofLexeme (Source.Position.start.after left) lexeme) := by
  subst parts
  constructor
  · rw [span_ofLexeme]
    exact Source.isBoundary_append left _
  · rw [span_ofLexeme, ← List.append_assoc, ← Source.byteLength_append]
    exact Source.isBoundary_append _ after
  · intro noString
    rw [span_ofLexeme, Source.slice?_append]
    exact congrArg some ((stands.text_eq_raw noString).symm.trans (String.toList_ofList).symm)

theorem nonempty_ofLexeme (left : List Char) {lexeme : Lexeme} {after : List Char}
    (stands : Lexeme.Stands lexeme after) :
    (Token.ofLexeme (Source.Position.start.after left) lexeme).span.start <
      (Token.ofLexeme (Source.Position.start.after left) lexeme).span.stop := by
  rw [span_ofLexeme]
  exact Nat.lt_add_of_pos_right (Source.byteLength_pos stands.raw_ne_nil)

/-! ## All tokens -/

theorem exists_stands_of_mem (left : List Char) {tiles : List Tile} {after : List Char}
    (tiling : Tiling tiles after) {token : Token}
    (listed : token ∈ tokens (Source.Position.start.after left) tiles) :
    ∃ front lexeme rest, left ++ (spelling tiles ++ after) = front ++ (lexeme.raw ++ rest) ∧
      left <+: front ∧ Lexeme.Stands lexeme rest ∧
      token = Token.ofLexeme (Source.Position.start.after front) lexeme := by
  rcases exists_tile_of_mem listed with ⟨before, tile, following, rfl, rfl⟩
  refine ⟨left ++ (spelling before ++ tile.gap), tile.lexeme, spelling following ++ after, ?_,
    List.prefix_append _ _, (tiling_append.mp tiling).2.2.1, ?_⟩
  · simp
  · rw [Source.Position.after_append Source.Position.start left]

theorem start_le_of_mem {left after : List Char} {tiles : List Tile} (tiling : Tiling tiles after)
    {token : Token} (listed : token ∈ tokens (Source.Position.start.after left) tiles) :
    Source.byteLength left ≤ token.span.start := by
  rcases exists_stands_of_mem left tiling listed with
    ⟨front, lexeme, rest, _, ⟨more, rfl⟩, _, rfl⟩
  rw [span_ofLexeme, Source.byteLength_append]
  exact Nat.le_add_right _ _

theorem spans_ordered (left : List Char) {tiles : List Tile} {after : List Char}
    (tiling : Tiling tiles after) :
    (tokens (Source.Position.start.after left) tiles).Pairwise
      fun first second => first.span.stop ≤ second.span.start := by
  induction tiles generalizing left with
  | nil => exact .nil
  | cons tile rest inductionHypothesis =>
    rcases tiling with ⟨_, _, later⟩
    rw [tokens_cons, ← Source.Position.after_append, ← Source.Position.after_append]
    apply List.Pairwise.cons _ (inductionHypothesis _ later)
    intro token listed
    have behind := start_le_of_mem later listed
    rw [Source.byteLength_append] at behind
    rw [span_ofLexeme]
    exact behind

/-- A byte of tiles is a token's or a blank's. -/
theorem has_or_byteOf (left : List Char) {tiles : List Tile} {after : List Char}
    (tiling : Tiling tiles after) {offset : Nat} (behind : Source.byteLength left ≤ offset)
    (inside : offset < Source.byteLength (left ++ spelling tiles)) :
    (∃ token ∈ tokens (Source.Position.start.after left) tiles, token.span.Has offset) ∨
      Source.ByteOf Source.IsGap (left ++ spelling tiles) offset := by
  induction tiles generalizing left with
  | nil =>
    rw [spelling_nil, List.append_nil] at inside
    exact absurd inside (Nat.not_lt_of_le behind)
  | cons tile rest inductionHypothesis =>
    rcases tiling with ⟨blank, _, later⟩
    have parts : left ++ spelling (tile :: rest) =
        left ++ tile.gap ++ tile.lexeme.raw ++ spelling rest := by simp
    rw [tokens_cons, ← Source.Position.after_append, ← Source.Position.after_append]
    rw [parts] at inside ⊢
    by_cases inGap : offset < Source.byteLength (left ++ tile.gap)
    · right
      rw [Source.byteLength_append] at inGap
      have found := (Source.byteOf_of_forall blank.isGap
        (Nat.sub_lt_left_of_lt_add behind inGap)).append_left left
      rw [Nat.add_sub_cancel' behind] at found
      exact (found.append_right _).append_right _
    · by_cases inLexeme : offset < Source.byteLength (left ++ tile.gap ++ tile.lexeme.raw)
      · refine Or.inl ⟨_, List.mem_cons_self, ?_⟩
        rw [span_ofLexeme, ← Source.byteLength_append]
        exact ⟨Nat.le_of_not_lt inGap, inLexeme⟩
      · rcases inductionHypothesis _ later (Nat.le_of_not_lt inLexeme) inside with
          ⟨token, listed, has⟩ | found
        · exact Or.inl ⟨token, List.mem_cons_of_mem _ listed, has⟩
        · exact Or.inr found

/-- A token of a source, with what stands before and after it. -/
theorem Reading.exists_stands {source : String} (reading : Reading source.toList) {token : Token}
    (listed : token ∈ tokens Source.Position.start reading.tiles) :
    ∃ front lexeme rest, source.toList = front ++ (lexeme.raw ++ rest) ∧
      Lexeme.Stands lexeme rest ∧
      token = Token.ofLexeme (Source.Position.start.after front) lexeme := by
  rcases exists_stands_of_mem [] reading.tiling listed with
    ⟨front, lexeme, rest, parts, _, stands, same⟩
  exact ⟨front, lexeme, rest, reading.spelled.trans parts, stands, same⟩

end Tile

namespace Token

variable {source : String}

/-- The span of the token that marks the end. -/
theorem span_endOfSource (source : String) :
    (endOfSource (Source.Position.start.after source.toList)).span =
      ⟨source.utf8ByteSize, source.utf8ByteSize⟩ := by
  have zero : Source.Position.start.offset = 0 := rfl
  simp only [endOfSource, Source.Position.offset_after, zero, Nat.zero_add,
    Source.byteLength_toList]

theorem inSource_endOfSource (source : String) :
    InSource source.toList (endOfSource (Source.Position.start.after source.toList)) := by
  have boundary : Source.IsBoundary source.toList source.utf8ByteSize := by
    rw [← Source.byteLength_toList]
    exact ⟨source.toList, [], (List.append_nil _).symm, rfl⟩
  have empty := Source.slice?_append source.toList [] []
  simp only [List.append_nil, Source.byteLength, Nat.add_zero, Source.byteLength_toList] at empty
  constructor
  · rw [span_endOfSource]
    exact boundary
  · rw [span_endOfSource]
    exact boundary
  · intro _
    rw [span_endOfSource]
    exact empty

/-- A token of a source is read somewhere in it, or marks its end. -/
theorem mem_tokenize (reading : Tile.Reading source.toList) {token : Token} :
    token ∈ tokenize source ↔ token ∈ Tile.tokens Source.Position.start reading.tiles ∨
      token = endOfSource (Source.Position.start.after source.toList) := by
  rw [reading.tokenize_eq, List.mem_append, List.mem_singleton]

/-- The token of a tile of a source. -/
theorem ofLexeme_mem_tokenize (reading : Tile.Reading source.toList) {left right : List Tile}
    {tile : Tile} (split : reading.tiles = left ++ tile :: right) :
    ofLexeme (Source.Position.start.after (Tile.spelling left ++ tile.gap)) tile.lexeme ∈
      tokenize source := by
  rw [mem_tokenize reading, split, Tile.tokens_append, Tile.tokens_cons,
    Source.Position.after_append]
  exact Or.inl (List.mem_append_right _ List.mem_cons_self)

theorem exists_ends (source : String) :
    ∃ front ending, tokenize source = front ++ [ending] ∧ Ends source front ending := by
  rcases Tile.exists_reading source.toList with ⟨reading⟩
  refine ⟨_, _, reading.tokenize_eq, rfl, rfl, span_endOfSource source, ?_⟩
  intro token listed
  rcases reading.exists_stands listed with ⟨front, lexeme, rest, _, stands, rfl⟩
  exact stands.kind_ne_eof

theorem start_lt_stop_of_tokenize {token : Token} (listed : token ∈ tokenize source)
    (endless : token.kind ≠ .eof) : token.span.start < token.span.stop := by
  rcases Tile.exists_reading source.toList with ⟨reading⟩
  rcases (mem_tokenize reading).mp listed with inTiles | rfl
  · rcases reading.exists_stands inTiles with ⟨front, lexeme, rest, _, stands, rfl⟩
    exact Tile.nonempty_ofLexeme front stands
  · exact absurd rfl endless

/-- The tokens of a source lie in it. -/
theorem inSource_of_tokenize {token : Token} (listed : token ∈ tokenize source) :
    InSource source.toList token := by
  rcases Tile.exists_reading source.toList with ⟨reading⟩
  rcases (mem_tokenize reading).mp listed with inTiles | rfl
  · rcases reading.exists_stands inTiles with ⟨front, lexeme, rest, parts, stands, rfl⟩
    exact Tile.inSource_ofLexeme parts stands
  · exact inSource_endOfSource source

theorem spans_of_tokenize_ordered (source : String) :
    (tokenize source).Pairwise fun first second => first.span.stop ≤ second.span.start := by
  rcases Tile.exists_reading source.toList with ⟨reading⟩
  rw [reading.tokenize_eq]
  apply List.pairwise_append.mpr
  refine ⟨Tile.spans_ordered [] reading.tiling, List.pairwise_singleton _ _, ?_⟩
  intro token listed ending isEnding
  rcases reading.exists_stands listed with ⟨front, lexeme, rest, parts, _, rfl⟩
  rw [List.mem_singleton.mp isEnding, span_endOfSource, Tile.span_ofLexeme,
    ← Source.byteLength_toList, parts, Source.byteLength_append, Source.byteLength_append]
  exact Nat.add_le_add_left (Nat.le_add_right _ _) _

theorem byteOf_gap_of_uncovered {offset : Nat} (inside : offset < source.utf8ByteSize)
    (uncovered : ∀ token ∈ tokenize source, ¬token.span.Has offset) :
    Source.ByteOf Source.IsGap source.toList offset := by
  rcases Tile.exists_reading source.toList with ⟨reading⟩
  rw [← Source.byteLength_toList] at inside
  rw [reading.spelled] at inside ⊢
  by_cases inTiles : offset < Source.byteLength (Tile.spelling reading.tiles)
  · rcases Tile.has_or_byteOf [] reading.tiling (Nat.zero_le _) inTiles with
      ⟨token, listed, has⟩ | found
    · exact absurd has (uncovered token ((mem_tokenize reading).mpr (Or.inl listed)))
    · exact found.append_right reading.gap
  · have behind := Nat.le_of_not_lt inTiles
    rw [Source.byteLength_append] at inside
    have found := (Source.byteOf_of_forall reading.blank.isGap
      (Nat.sub_lt_left_of_lt_add behind inside)).append_left (Tile.spelling reading.tiles)
    rw [Nat.add_sub_cancel' behind] at found
    exact found

/-- The tokens of a source cover it. -/
theorem tokenize_covers (source : String) : Covers source (tokenize source) := by
  constructor
  case ended => exact exists_ends source
  case nonempty =>
    intro token listed endless
    exact start_lt_stop_of_tokenize listed endless
  case inSource =>
    intro token listed
    exact inSource_of_tokenize listed
  case ordered => exact spans_of_tokenize_ordered source
  case gaps =>
    intro offset inside uncovered
    exact byteOf_gap_of_uncovered inside uncovered

end Token
end Ritual
