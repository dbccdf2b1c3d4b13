import Ritual.Proofs.Token.Behind
import Ritual.Proofs.Token.Coverage
import Ritual.Proofs.Token.Located

namespace Ritual

/-!
# Scanning is local

A token does not depend on what stands in front of it, and the tokens up to a line end do
not depend on what stands behind it.  So a source that is cut in front of a token is
scanned as before, with places that count from the cut, and a source that is put behind a
line end is scanned as it is alone, with places further down.

The cut may fall into a line.  Then the columns on that line move and those on later lines
do not.  Which of the two happens to a token is read off its reported line, and two
reported lines are told apart because the counters do not overflow.
-/

namespace Source

namespace Position

/-- The place as it is counted from another one, where the source then begins. -/
def relativeTo (origin position : Position) : Position where
  offset := position.offset - origin.offset
  line := position.line - origin.line + 1
  column :=
    if position.line = origin.line then position.column - origin.column + 1 else position.column

/-- Whether a place is behind another one, or is that place. -/
def Reaches (origin position : Position) : Prop :=
  ∃ passed, position = origin.after passed

namespace Reaches

variable {origin position : Position}

theorem offset_le (reaches : origin.Reaches position) : origin.offset ≤ position.offset := by
  rcases reaches with ⟨passed, rfl⟩
  rw [offset_after]
  exact Nat.le_add_right _ _

theorem line_le (reaches : origin.Reaches position) : origin.line ≤ position.line := by
  rcases reaches with ⟨passed, rfl⟩
  rw [line_after]
  exact Nat.le_add_right _ _

theorem column_le (reaches : origin.Reaches position) (sameLine : position.line = origin.line) :
    origin.column ≤ position.column := by
  rcases reaches with ⟨passed, rfl⟩
  have oneLine : '\n' ∉ passed := by
    rw [line_after] at sameLine
    exact List.count_eq_zero.mp (by omega)
  rw [column_after_of_oneLine origin oneLine]
  exact Nat.le_add_right _ _

/-- Counting from the origin goes on as counting from the start does. -/
theorem step_relativeTo (reaches : origin.Reaches position) (char : Char) :
    origin.relativeTo (position.step char) = (origin.relativeTo position).step char := by
  have offset := reaches.offset_le
  have line := reaches.line_le
  have column := reaches.column_le
  unfold step relativeTo
  by_cases lineFeed : char = '\n'
  · simp only [if_pos lineFeed, Position.mk.injEq]
    refine ⟨by omega, by omega, ?_⟩
    rw [if_neg (by omega)]
  · simp only [if_neg lineFeed, Position.mk.injEq]
    refine ⟨by omega, trivial, ?_⟩
    by_cases sameLine : position.line = origin.line
    · have further := column sameLine
      rw [if_pos sameLine, if_pos sameLine]
      omega
    · rw [if_neg sameLine, if_neg sameLine]

end Reaches

theorem offset_after_append (left middle : List Char) :
    (start.after (left ++ middle)).offset = byteLength left + (start.after middle).offset := by
  simp only [offset_after, byteLength_append, Nat.add_left_comm]

theorem after_relativeTo (origin : Position) (chars : List Char) :
    origin.relativeTo (origin.after chars) = start.after chars := by
  induction chars using List.reverseRecOn with
  | nil => simp [relativeTo, start]
  | append_singleton front char inductionHypothesis =>
    have reaches : origin.Reaches (origin.after front) := ⟨front, rfl⟩
    rw [after_append, after_append, after_cons, after_nil, after_cons, after_nil,
      reaches.step_relativeTo, inductionHypothesis]

end Position

/-- The location as it is reported if the source begins at another one. -/
def Location.relativeTo (origin location : Location) : Location where
  line := location.line - origin.line + 1
  column :=
    if location.line = origin.line then location.column - origin.column + 1 else location.column

/-- Reporting agrees with counting from the origin, as long as the counters count. -/
theorem Countable.location_relativeTo {left middle right : List Char}
    (countable : Countable (left ++ (middle ++ right))) :
    (Position.start.after left).location.relativeTo
        (Position.start.after (left ++ middle)).location =
      (Position.start.after middle).location := by
  have originSmall := countable.line_lt
  rw [← List.append_assoc] at countable
  have small := countable.line_lt
  have reaches : (Position.start.after left).Reaches (Position.start.after (left ++ middle)) :=
    ⟨middle, Position.after_append _ _ _⟩
  rw [← Position.after_relativeTo (Position.start.after left) middle, ← Position.after_append]
  generalize Position.start.after left = origin at *
  generalize Position.start.after (left ++ middle) = position at *
  have sameLine : position.location.line = origin.location.line ↔ position.line = origin.line := by
    rw [← UInt32.toNat_inj, Position.line_toNat small, Position.line_toNat originSmall]
  have line := UInt32.ofNat_sub reaches.line_le
  have one : (1 : UInt32) = UInt32.ofNat 1 := rfl
  simp only [Location.relativeTo, sameLine, Position.relativeTo]
  simp only [Position.location, Location.mk.injEq, UInt32.ofNat_add, line, ← one, true_and]
  by_cases same : position.line = origin.line
  · rw [if_pos same, if_pos same, UInt32.ofNat_add, UInt32.ofNat_sub (reaches.column_le same)]
    rfl
  · rw [if_neg same, if_neg same]

end Source

namespace Token

/-- The token as it is if the source begins with another one. -/
def relativeTo (origin token : Token) : Token :=
  { token with
    location := origin.location.relativeTo token.location
    span := ⟨token.span.start - origin.span.start, token.span.stop - origin.span.start⟩ }

/-- Whether a token begins behind some characters of a source. -/
structure BeginsBehind (left : List Char) (token : Token) : Prop where
  start : token.span.start = Source.byteLength left
  location : token.location = (Source.Position.start.after left).location

theorem beginsBehind_ofLexeme (left : List Char) (lexeme : Lexeme) :
    BeginsBehind left (ofLexeme (Source.Position.start.after left) lexeme) where
  start := by rw [Tile.span_ofLexeme]
  location := rfl

namespace BeginsBehind

variable {left middle after : List Char} {origin : Token}

theorem ofLexeme_relativeTo (begins : BeginsBehind left origin) (lexeme : Lexeme)
    (countable : Source.Countable (left ++ (middle ++ after))) :
    origin.relativeTo (ofLexeme (Source.Position.start.after (left ++ middle)) lexeme) =
      ofLexeme (Source.Position.start.after middle) lexeme := by
  have location := countable.location_relativeTo
  simp only [relativeTo, ofLexeme, begins.start, begins.location, location,
    Source.Position.offset_after _ lexeme.raw, Source.Position.offset_after_append,
    Nat.add_assoc, Nat.add_sub_cancel_left]

theorem endOfSource_relativeTo (begins : BeginsBehind left origin)
    (countable : Source.Countable (left ++ middle)) :
    origin.relativeTo (endOfSource (Source.Position.start.after (left ++ middle))) =
      endOfSource (Source.Position.start.after middle) := by
  have nothing : left ++ middle = left ++ (middle ++ []) := by rw [List.append_nil]
  have location := (nothing ▸ countable : Source.Countable _).location_relativeTo
  simp only [relativeTo, endOfSource, begins.start, begins.location, location,
    Source.Position.offset_after_append, Nat.add_sub_cancel_left]

/-- The tokens of tiles are the same but for their places, which count from the origin. -/
theorem tokens_relativeTo (begins : BeginsBehind left origin) {tiles : List Tile}
    (countable : Source.Countable (left ++ (middle ++ (Tile.spelling tiles ++ after)))) :
    (Tile.tokens (Source.Position.start.after (left ++ middle)) tiles).map origin.relativeTo =
      Tile.tokens (Source.Position.start.after middle) tiles := by
  induction tiles generalizing middle with
  | nil => rfl
  | cons tile rest inductionHypothesis =>
    have countableHere : Source.Countable (left ++ (middle ++ tile.gap ++
        (tile.lexeme.raw ++ Tile.spelling rest ++ after))) := by
      simpa using countable
    have countableLater : Source.Countable (left ++ (middle ++ tile.gap ++ tile.lexeme.raw ++
        (Tile.spelling rest ++ after))) := by
      simpa using countable
    have here := begins.ofLexeme_relativeTo tile.lexeme countableHere
    have later := inductionHypothesis countableLater
    simp only [← List.append_assoc] at here later
    rw [Tile.tokens_cons, Tile.tokens_cons, List.map_cons, ← Source.Position.after_append,
      ← Source.Position.after_append, ← Source.Position.after_append,
      ← Source.Position.after_append, here, later]

end BeginsBehind

/-! ## A source that is cut in front of a token -/

variable {source : String}

/-- From a token on a source is tiled as before, without the blanks in front of the token. -/
theorem exists_cut {before after : List Token} {token : Token}
    (split : tokenize source = before ++ token :: after) :
    ∃ left right, source.toList = left ++ right ∧ BeginsBehind left token ∧
      ∃ reading : Tile.Reading right,
        token :: after = Tile.tokens (Source.Position.start.after left) reading.tiles ++
          [endOfSource (Source.Position.start.after (left ++ right))] := by
  rcases Tile.exists_reading source.toList with ⟨⟨tiles, gap, spelled, tiling, blank⟩⟩
  rw [Tile.Reading.tokenize_eq ⟨tiles, gap, spelled, tiling, blank⟩] at split
  rcases List.eq_nil_or_concat after with rfl | ⟨inner, last, rfl⟩
  · -- the token marks the end, and nothing is behind it
    rcases List.append_inj' split rfl with ⟨rfl, ending⟩
    obtain rfl := (List.cons.inj ending).1
    refine ⟨source.toList, [], (List.append_nil _).symm, ⟨?_, rfl⟩,
      ⟨[], [], rfl, trivial, Tile.blank_nil⟩, ?_⟩
    · rw [span_endOfSource, Source.byteLength_toList]
    · rw [List.append_nil]
      rfl
  · rw [List.concat_eq_append, ← List.cons_append, ← List.append_assoc] at split
    rcases List.append_inj' split rfl with ⟨inTiles, ending⟩
    rcases Tile.tokens_eq_append inTiles with ⟨first, second, rfl, rfl, behind⟩
    cases second with
    | nil => cases behind
    | cons tile rest =>
      rcases (Tile.tiling_append.mp tiling).2 with ⟨_, stands, later⟩
      rw [Tile.tokens_cons, ← Source.Position.after_append] at behind
      rcases List.cons.inj behind with ⟨rfl, rfl⟩
      obtain rfl := (List.cons.inj ending).1
      have parts : source.toList = Tile.spelling first ++ tile.gap ++
          Tile.spelling (⟨[], tile.lexeme⟩ :: rest) ++ gap := by
        rw [spelled]
        simp
      rw [List.append_assoc] at parts
      refine ⟨_, _, parts, beginsBehind_ofLexeme _ _, ⟨⟨[], tile.lexeme⟩ :: rest, gap, rfl,
        ⟨Tile.blank_nil, stands, later⟩, blank⟩, ?_⟩
      rw [← parts, List.concat_eq_append, Tile.tokens_cons]
      rfl

/-- Cut in front of a token, a source has that token and the ones behind it. -/
theorem tokenize_cut (countable : Source.Countable source.toList) {before after : List Token}
    {token : Token} (split : tokenize source = before ++ token :: after) :
    ∃ left right, source.toList = left ++ right ∧
      Source.byteLength left = token.span.start ∧
      tokenize (String.ofList right) = (token :: after).map token.relativeTo := by
  rcases exists_cut split with ⟨left, right, parts, begins, reading, tokens⟩
  refine ⟨left, right, parts, begins.start.symm, ?_⟩
  rw [parts] at countable
  have moved := begins.endOfSource_relativeTo countable
  have whole : left ++ right = left ++ ([] ++ (Tile.spelling reading.tiles ++ reading.gap)) := by
    rw [List.nil_append, ← reading.spelled]
  have tiles := begins.tokens_relativeTo (whole ▸ countable)
  rw [List.append_nil] at tiles
  rw [tokens, List.map_append, tiles, List.map_singleton, moved, tokenize,
    String.toList_ofList, reading.streamFrom_eq]
  rfl

/-! ## A source that is put behind a line end -/

/-- A source that is put behind whole lines has its tokens further down. -/
theorem streamFrom_behind {lines : List Char} (whole : Source.WholeLines lines)
    (chars : List Char) :
    streamFrom (Source.Position.start.after lines) chars =
      (streamFrom Source.Position.start chars).map (behind lines) := by
  rcases Tile.exists_reading chars with ⟨reading⟩
  rw [reading.streamFrom_eq, reading.streamFrom_eq, List.map_append, List.map_singleton,
    Source.Position.start_after_lines whole, Tile.tokens_behind, Source.Position.after_behind,
    endOfSource_behind]

end Token

namespace Tile

/-- A line feed that is read as the end of a line parts the tiles. -/
theorem Reading.exists_parted {source : String} (reading : Reading source.toList)
    {first second : List Char} (parts : source.toList = first ++ '\n' :: second)
    {newline : Token} (listed : newline ∈ Token.tokenize source) (kind : newline.kind = .newline)
    (start : newline.span.start = Source.byteLength first) :
    ∃ before tile after, reading.tiles = before ++ tile :: after ∧ tile.lexeme.raw = ['\n'] ∧
      newline = Token.ofLexeme (Source.Position.start.after (spelling before ++ tile.gap))
        tile.lexeme ∧
      first = spelling before ++ tile.gap ∧ second = spelling after ++ reading.gap := by
  have endless : newline.kind ≠ .eof := by
    rw [kind]
    exact TokenKind.noConfusion
  rcases Token.exists_tile_of_tokenize reading listed endless with
    ⟨before, tile, after, split, rfl⟩
  rcases reading.exists_around split with ⟨around, stands⟩
  have raw : tile.lexeme.raw = ['\n'] := stands.raw_of_newline kind
  -- the line end stands behind as many bytes as the first characters have, so it ends them
  rw [span_ofLexeme] at start
  rw [raw] at around
  rcases Source.append_inj_of_byteLength (parts.symm.trans around) start.symm with ⟨front, back⟩
  exact ⟨before, tile, after, split, raw, rfl, front, (List.cons.inj back).2⟩

end Tile

namespace Token

/-- Behind a line end a source has the tokens that it has alone, and in front of the line end
there are the tokens of what stands there. -/
theorem tokenize_append {first second : String} {newline : Token}
    (listed : newline ∈ tokenize (first ++ "\n")) (kind : newline.kind = .newline)
    (start : newline.span.start = first.utf8ByteSize) :
    tokenize (first ++ "\n" ++ second) = (tokenize first).dropLast ++
      newline :: (tokenize second).map (behind (first ++ "\n").toList) := by
  rcases Tile.exists_reading (first ++ "\n").toList with ⟨reading⟩
  have ended : (first ++ "\n").toList = first.toList ++ '\n' :: [] := String.toList_append
  rw [← Source.byteLength_toList] at start
  rcases reading.exists_parted ended listed kind start with
    ⟨before, tile, after, split, raw, rfl, spelled, nothing⟩
  have tiling := reading.tiling
  rw [split] at tiling
  rcases Tile.tiling_append.mp tiling with ⟨front, blank, stands, _⟩
  rw [Tile.spelling_cons, raw, List.append_assoc, List.append_assoc, ← nothing] at front
  have newlineStands := stands.of_newline kind second.toList
  -- a line end or nothing may take the place of what stood behind the tiles of the first text
  have followsAlone : Lexeme.MayFollow (tile.gap ++ ['\n']) (tile.gap ++ []) :=
    (Lexeme.MayFollow.nil ['\n']).append tile.gap
  have followsBoth : Lexeme.MayFollow (tile.gap ++ ['\n']) (tile.gap ++ '\n' :: second.toList) :=
    (Lexeme.MayFollow.newline (by simp) second.toList).append tile.gap
  have alone := Tile.tiling_replace front followsAlone
  rw [List.append_nil] at alone
  have both : Tile.Tiling (before ++ [tile]) second.toList := by
    rw [Tile.tiling_append, Tile.spelling_cons, raw]
    refine ⟨?_, blank, newlineStands, trivial⟩
    simpa using Tile.tiling_replace front followsBoth
  have firstLines : (first ++ "\n").toList = Tile.spelling (before ++ [tile]) := by
    rw [ended, spelled, Tile.spelling_append, Tile.spelling_cons, raw]
    simp
  have whole : Source.WholeLines (first ++ "\n").toList := by
    rw [ended]
    exact Source.wholeLines_append_lineFeed first.toList
  have behindLines := streamFrom_behind whole second.toList
  have aloneEq := Tile.Reading.tokenize_eq ⟨before, tile.gap, spelled, alone, blank⟩
  rw [firstLines] at behindLines
  rw [tokenize, String.toList_append, firstLines, streamFrom_tiling _ both, behindLines, aloneEq,
    List.dropLast_concat, Tile.tokens_append, Tile.tokens_cons, List.append_assoc,
    Source.Position.after_append]
  rfl

/-- Scanning is local.  A source that is cut in front of one of its tokens has that token and
the ones behind it, with places that count from the cut.  A text behind a line end has its
tokens further down, and the text in front of the line end has its tokens as they are. -/
theorem tokenize_local :
    (∀ source : String, Source.Countable source.toList → ∀ before token after,
        tokenize source = before ++ token :: after →
        ∃ left right, source.toList = left ++ right ∧
          Source.byteLength left = token.span.start ∧
          tokenize (String.ofList right) = (token :: after).map token.relativeTo) ∧
      ∀ first second : String, ∀ newline ∈ tokenize (first ++ "\n"), newline.kind = .newline →
        newline.span = ⟨first.utf8ByteSize, first.utf8ByteSize + 1⟩ →
        tokenize (first ++ "\n" ++ second) = (tokenize first).dropLast ++
          newline :: (tokenize second).map (behind (first ++ "\n").toList) := by
  constructor
  · intro source countable before token after split
    exact tokenize_cut countable split
  · intro first second newline listed kind span
    exact tokenize_append listed kind (congrArg Source.Span.start span)

/-- A cut behind a literal that holds a line feed, and a line end behind a literal. -/
theorem tokenize_local_literals :
    let before : List Token := [⟨.identifier, "x", ⟨1, 1⟩, ⟨0, 1⟩⟩,
      ⟨.string, "a\nb", ⟨1, 3⟩, ⟨2, 7⟩⟩]
    let token : Token := ⟨.identifier, "é", ⟨2, 4⟩, ⟨8, 10⟩⟩
    let after : List Token := [⟨.newline, "\n", ⟨2, 5⟩, ⟨10, 11⟩⟩,
      ⟨.identifier, "d", ⟨3, 2⟩, ⟨12, 13⟩⟩, ⟨.eof, "", ⟨3, 3⟩, ⟨13, 13⟩⟩]
    let newline : Token := ⟨.newline, "\n", ⟨1, 4⟩, ⟨4, 5⟩⟩
    (Source.Countable "x 'a\nb' é\n d".toList ∧
      tokenize "x 'a\nb' é\n d" = before ++ token :: after ∧
      ∃ left right, "x 'a\nb' é\n d".toList = left ++ right ∧ Source.byteLength left = 8 ∧
        tokenize (String.ofList right) = [⟨.identifier, "é", ⟨1, 1⟩, ⟨0, 2⟩⟩,
          ⟨.newline, "\n", ⟨1, 2⟩, ⟨2, 3⟩⟩, ⟨.identifier, "d", ⟨2, 2⟩, ⟨4, 5⟩⟩,
          ⟨.eof, "", ⟨2, 3⟩, ⟨5, 5⟩⟩]) ∧
      newline ∈ tokenize ("'é'" ++ "\n") ∧
      newline.span = ⟨"'é'".utf8ByteSize, "'é'".utf8ByteSize + 1⟩ ∧
      tokenize ("'é'" ++ "\n" ++ "\tb") = [⟨.string, "é", ⟨1, 1⟩, ⟨0, 4⟩⟩, newline,
        ⟨.identifier, "b", ⟨2, 2⟩, ⟨6, 7⟩⟩, ⟨.eof, "", ⟨2, 3⟩, ⟨7, 7⟩⟩] := by
  intro before token after newline
  have countable : Source.Countable "x 'a\nb' é\n d".toList :=
    Source.countable_of_length (by decide)
  have split : tokenize "x 'a\nb' é\n d" = before ++ token :: after := by decide +kernel
  have listed : newline ∈ tokenize ("'é'" ++ "\n") := by decide +kernel
  have span : newline.span = ⟨"'é'".utf8ByteSize, "'é'".utf8ByteSize + 1⟩ := by decide +kernel
  rcases tokenize_local.1 _ countable before token after split with ⟨left, right, parts, cut, again⟩
  have joined := tokenize_local.2 "'é'" "\tb" newline listed rfl span
  refine ⟨⟨countable, split, left, right, parts, cut, ?_⟩, listed, span, ?_⟩
  · rw [again]
    decide +kernel
  · rw [joined]
    decide +kernel

end Token
end Ritual
