import Ritual.Proofs.Lexeme.Scan
import Ritual.Token.Stream

namespace Ritual

/-!
# Tokens tile their source

A source is a sequence of tiles, each of which is a lexeme with the blanks in
front of it, and then the blanks that end the source.  The tokens are read off
the tiles, so a statement about a token list can be made about the tiles, where
the characters of a token and those around it are at hand.

Where a tile stands matters in two ways only: its token is placed there, and
its lexeme stands before the characters that follow.
-/

/-- The kind and the text of a token. -/
def Token.content (token : Token) : TokenKind × String :=
  (token.kind, token.text)

/-- The kind and the text of the token of a lexeme. -/
def Lexeme.content (lexeme : Lexeme) : TokenKind × String :=
  (lexeme.kind, String.ofList lexeme.text)

/-- A lexeme with the blanks in front of it. -/
structure Tile where
  gap : List Char
  lexeme : Lexeme

namespace Tile

/-- The characters of a tile. -/
def chars (tile : Tile) : List Char :=
  tile.gap ++ tile.lexeme.raw

/-- The characters of tiles that stand side by side. -/
def spelling : List Tile → List Char
  | [] => []
  | tile :: rest => tile.chars ++ spelling rest

@[simp] theorem spelling_nil : spelling [] = [] := rfl

@[simp] theorem spelling_cons (tile : Tile) (rest : List Tile) :
    spelling (tile :: rest) = tile.gap ++ (tile.lexeme.raw ++ spelling rest) := by
  simp [spelling, chars]

@[simp] theorem spelling_append (left right : List Tile) :
    spelling (left ++ right) = spelling left ++ spelling right := by
  induction left with
  | nil => rfl
  | cons tile rest inductionHypothesis => simp [inductionHypothesis]

/-- Whether characters are blanks only. -/
def Blank (gap : List Char) : Prop :=
  ∀ char ∈ gap, Lexeme.isBlank char = true

theorem blank_nil : Blank [] := by
  intro char impossible
  cases impossible

/-- Tiles that are read where they stand, before the given characters. -/
def Tiling : List Tile → List Char → Prop
  | [], _ => True
  | tile :: rest, after =>
    Blank tile.gap ∧ Lexeme.Stands tile.lexeme (spelling rest ++ after) ∧ Tiling rest after

theorem tiling_append {left right : List Tile} {after : List Char} :
    Tiling (left ++ right) after ↔ Tiling left (spelling right ++ after) ∧ Tiling right after := by
  induction left with
  | nil => simp [Tiling]
  | cons tile rest inductionHypothesis =>
    simp only [List.cons_append, Tiling, inductionHypothesis, spelling_append, List.append_assoc,
      and_assoc]

/-- Tiles stay where they are if characters that do not continue them take the place of those
behind them.  Only a literal without its closing quote minds what is put behind the end. -/
theorem tiling_replace_of {tiles : List Tile} {original replacement : List Char}
    (tiling : Tiling tiles original) (follows : Lexeme.Continues original replacement)
    (ended : ∀ tile ∈ tiles, Lexeme.Unclosed tile.lexeme → original = [] → replacement = []) :
    Tiling tiles replacement := by
  induction tiles with
  | nil => trivial
  | cons tile rest inductionHypothesis =>
    rcases tiling with ⟨blank, stands, later⟩
    have restEnded : ∀ other ∈ rest, Lexeme.Unclosed other.lexeme → original = [] →
        replacement = [] := fun other listed => ended other (List.mem_cons_of_mem _ listed)
    refine ⟨blank, stands.replace_of (follows.append _) ?_, inductionHypothesis later restEnded⟩
    intro unclosed nothing
    rcases List.append_eq_nil_iff.mp nothing with ⟨spelled, same⟩
    rw [spelled, ended tile List.mem_cons_self unclosed same]
    rfl

theorem tiling_replace {tiles : List Tile} {original replacement : List Char}
    (tiling : Tiling tiles original) (follows : Lexeme.MayFollow original replacement) :
    Tiling tiles replacement :=
  tiling_replace_of tiling follows.toContinues fun _ _ _ => follows.ended

/-- The tokens of tiles that begin at a position. -/
def tokens : Source.Position → List Tile → List Token
  | _, [] => []
  | position, tile :: rest =>
    Token.ofLexeme (position.after tile.gap) tile.lexeme :: tokens (position.after tile.chars) rest

@[simp] theorem tokens_nil (position : Source.Position) : tokens position [] = [] := rfl

@[simp] theorem tokens_cons (position : Source.Position) (tile : Tile) (rest : List Tile) :
    tokens position (tile :: rest) =
      Token.ofLexeme (position.after tile.gap) tile.lexeme ::
        tokens ((position.after tile.gap).after tile.lexeme.raw) rest := by
  rw [tokens, chars, Source.Position.after_append]

theorem tokens_append (position : Source.Position) (left right : List Tile) :
    tokens position (left ++ right) =
      tokens position left ++ tokens (position.after (spelling left)) right := by
  induction left generalizing position with
  | nil => rfl
  | cons tile rest inductionHypothesis =>
    simp [inductionHypothesis, Source.Position.after_append]

theorem map_content_tokens (position : Source.Position) (tiles : List Tile) :
    (tokens position tiles).map Token.content = tiles.map fun tile => tile.lexeme.content := by
  induction tiles generalizing position with
  | nil => rfl
  | cons tile rest inductionHypothesis =>
    rw [tokens_cons, List.map_cons, List.map_cons, inductionHypothesis]
    rfl

theorem exists_tile_of_mem {position : Source.Position} {tiles : List Tile} {token : Token}
    (listed : token ∈ tokens position tiles) :
    ∃ before tile after, tiles = before ++ tile :: after ∧
      token = Token.ofLexeme (position.after (spelling before ++ tile.gap)) tile.lexeme := by
  induction tiles generalizing position with
  | nil => cases listed
  | cons tile rest inductionHypothesis =>
    rw [tokens_cons] at listed
    rcases List.mem_cons.mp listed with rfl | later
    · exact ⟨[], tile, rest, rfl, by simp⟩
    · rcases inductionHypothesis later with ⟨before, found, after, rfl, rfl⟩
      exact ⟨tile :: before, found, after, rfl, by simp [Source.Position.after_append]⟩

theorem kind_tokens (property : TokenKind → Bool) {flag : Bool} {tiles : List Tile}
    (all : ∀ tile ∈ tiles, property tile.lexeme.kind = flag) (position : Source.Position) :
    ∀ token ∈ tokens position tiles, property token.kind = flag := by
  intro token listed
  rcases exists_tile_of_mem listed with ⟨before, tile, after, rfl, rfl⟩
  exact all tile (by simp)

theorem stops_tokens (property : TokenKind → Bool) {tiles : List Tile}
    (stops : Lexeme.Stops (fun tile => property tile.lexeme.kind) tiles)
    (position : Source.Position) :
    Lexeme.Stops (fun token => property token.kind) (tokens position tiles) := by
  cases tiles with
  | nil => exact Lexeme.stops_nil _
  | cons tile others =>
    have outside := Lexeme.stops_cons.mp stops
    rw [tokens_cons]
    exact Lexeme.stops_cons.mpr outside

/-- A token list is cut where its tiles are. -/
theorem tokens_eq_append {position : Source.Position} {tiles : List Tile} {left right : List Token}
    (split : tokens position tiles = left ++ right) :
    ∃ first second, tiles = first ++ second ∧ left = tokens position first ∧
      right = tokens (position.after (spelling first)) second := by
  induction left generalizing position tiles with
  | nil => exact ⟨[], tiles, rfl, rfl, split.symm⟩
  | cons token others inductionHypothesis =>
    cases tiles with
    | nil => cases split
    | cons tile rest =>
      rw [tokens_cons, List.cons_append] at split
      rcases List.cons.inj split with ⟨rfl, later⟩
      rcases inductionHypothesis later with ⟨first, second, rfl, rfl, rfl⟩
      exact ⟨tile :: first, second, rfl, by simp, by simp [Source.Position.after_append]⟩

end Tile

namespace Lexeme

theorem Stands.raw_ne_nil {lexeme : Lexeme} {after : List Char} (stands : Stands lexeme after) :
    lexeme.raw ≠ [] := by
  rcases stands.scan_eq with ⟨char, rest, _, _, found⟩
  rw [← found]
  exact scan_raw_ne_nil char rest

/-- No lexeme begins with a blank. -/
theorem Stands.visible {lexeme : Lexeme} {after : List Char} (stands : Stands lexeme after)
    (rest : List Char) : Stops isBlank (lexeme.raw ++ rest) := by
  rcases stands.scan_eq with ⟨char, others, parts, visible, _⟩
  rcases List.exists_cons_of_ne_nil stands.raw_ne_nil with ⟨first, more, raw⟩
  rw [raw] at parts ⊢
  rw [← (List.cons.inj parts).1] at visible
  exact stops_cons.mpr visible

end Lexeme

namespace Token

theorem streamFrom_gap (position : Source.Position) {gap : List Char} (blank : Tile.Blank gap)
    (rest : List Char) :
    streamFrom position (gap ++ rest) = streamFrom (position.after gap) rest := by
  induction gap generalizing position with
  | nil => rfl
  | cons char others inductionHypothesis =>
    rw [List.cons_append, streamFrom_blank position _ (blank char List.mem_cons_self),
      inductionHypothesis _ fun other listed => blank other (List.mem_cons_of_mem _ listed)]
    rfl

theorem streamFrom_stands (position : Source.Position) {lexeme : Lexeme} {after : List Char}
    (stands : Lexeme.Stands lexeme after) :
    streamFrom position (lexeme.raw ++ after) =
      ofLexeme position lexeme :: streamFrom (position.after lexeme.raw) after := by
  rcases stands.scan_eq with ⟨char, rest, parts, visible, found⟩
  rw [parts, streamFrom_lexeme position rest visible, found, ← parts, List.drop_left]

theorem streamFrom_tiling (position : Source.Position) {tiles : List Tile} {after : List Char}
    (tiling : Tile.Tiling tiles after) :
    streamFrom position (Tile.spelling tiles ++ after) =
      Tile.tokens position tiles ++ streamFrom (position.after (Tile.spelling tiles)) after := by
  induction tiles generalizing position with
  | nil => rfl
  | cons tile rest inductionHypothesis =>
    rcases tiling with ⟨blank, stands, later⟩
    rw [Tile.spelling_cons, List.append_assoc, streamFrom_gap position blank, List.append_assoc,
      streamFrom_stands _ stands, inductionHypothesis _ later]
    simp [Source.Position.after_append]

theorem streamFrom_blanks (position : Source.Position) {gap : List Char} (blank : Tile.Blank gap) :
    streamFrom position gap = [endOfSource (position.after gap)] := by
  have passed := streamFrom_gap position blank []
  rw [List.append_nil] at passed
  rw [passed, streamFrom_nil]

end Token

namespace Tile

/-- Characters as tiles, with the blanks behind the last one. -/
structure Reading (chars : List Char) where
  tiles : List Tile
  gap : List Char
  spelled : chars = spelling tiles ++ gap
  tiling : Tiling tiles gap
  blank : Blank gap

/-- Every source is tiled. -/
theorem exists_reading (chars : List Char) : Nonempty (Reading chars) := by
  rcases Lexeme.exists_run Lexeme.isBlank chars with ⟨gap, after, spelled, blank, stops⟩
  match after with
  | [] => exact ⟨⟨[], gap, by simpa using spelled, trivial, blank⟩⟩
  | char :: rest =>
    rcases Lexeme.exists_stands rest (Lexeme.stops_cons.mp stops) with
      ⟨lexeme, remaining, parts, stands⟩
    have progress := List.length_pos_iff.mpr stands.raw_ne_nil
    have lengths := congrArg List.length parts
    have total := congrArg List.length spelled
    rcases exists_reading remaining with ⟨reading⟩
    rw [reading.spelled] at stands
    refine ⟨⟨⟨gap, lexeme⟩ :: reading.tiles, reading.gap, ?_, ⟨blank, stands, reading.tiling⟩,
      reading.blank⟩⟩
    rw [spelled, parts, spelling_cons, List.append_assoc, List.append_assoc, ← reading.spelled]
termination_by chars.length
decreasing_by
  simp only [List.length_append, List.length_cons] at lengths total
  omega

theorem Reading.streamFrom_eq {chars : List Char} (reading : Reading chars)
    (position : Source.Position) :
    Token.streamFrom position chars =
      tokens position reading.tiles ++ [Token.endOfSource (position.after chars)] := by
  rcases reading with ⟨tiles, gap, rfl, tiling, blank⟩
  rw [Token.streamFrom_tiling _ tiling, Token.streamFrom_blanks _ blank,
    ← Source.Position.after_append]

/-- The tokens of a source are those of its tiles, and the end. -/
theorem Reading.tokenize_eq {source : String} (reading : Reading source.toList) :
    Token.tokenize source = tokens Source.Position.start reading.tiles ++
      [Token.endOfSource (Source.Position.start.after source.toList)] :=
  reading.streamFrom_eq Source.Position.start

/-- The kinds and the texts of a source that is given by its tiles. -/
theorem content_of_tiling {source : String} {tiles : List Tile}
    (spelled : source.toList = spelling tiles) (tiling : Tiling tiles []) :
    (Token.tokenize source).map Token.content =
      tiles.map (fun tile => tile.lexeme.content) ++ [(.eof, "")] := by
  have whole : source.toList = spelling tiles ++ [] := by rw [spelled, List.append_nil]
  rw [Reading.tokenize_eq ⟨tiles, [], whole, tiling, blank_nil⟩, List.map_append,
    map_content_tokens]
  rfl

end Tile
end Ritual
