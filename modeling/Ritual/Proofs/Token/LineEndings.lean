import Mathlib.Data.List.Forall2
import Ritual.Language
import Ritual.Proofs.Lexeme.LineEndings
import Ritual.Proofs.Token.Trimmed

namespace Ritual

/-!
# Tokens of a source with returns

A carriage return before a line feed is a blank in front of the line's end, unless the last
lexeme of the line takes it.  Either way the source keeps its tokens, and all of them but
the line ends keep their places.  A tag that takes a return still names the same language.
-/

namespace Tile

/-! ## Tiles -/

/-- The tiles that stand before some characters, and the tiles of the same source with its
returns. -/
inductive Returned (ending : List Char) : List Tile → List Tile → Prop where
  | nil : Returned ending [] []
  /-- A line end has the return among the blanks in front of it. -/
  | newline {gap : List Char} {rest again : List Tile} (oneLine : '\n' ∉ gap)
      (later : Returned ending rest again) :
      Returned ending (⟨gap, Lexeme.lineFeed⟩ :: rest)
        (⟨gap ++ ['\r'], Lexeme.lineFeed⟩ :: again)
  /-- A tile that takes no return; if it is a comment, the source ends with it. -/
  | kept {tile : Tile} {rest again : List Tile} (visible : tile.lexeme.kind ≠ .newline)
      (oneLine : '\n' ∉ tile.chars)
      (ended : tile.lexeme.kind.isComment = true → spelling rest ++ ending = [])
      (later : Returned ending rest again) : Returned ending (tile :: rest) (tile :: again)
  /-- A tile that takes the return before the line end behind it. -/
  | took {tile : Tile} {rest again : List Tile} (takes : Lexeme.mayTakeReturn tile.lexeme.kind)
      (oneLine : '\n' ∉ tile.chars) (later : Returned ending rest again) :
      Returned ending (tile :: ⟨[], Lexeme.lineFeed⟩ :: rest)
        (⟨tile.gap, tile.lexeme.withReturn⟩ :: ⟨[], Lexeme.lineFeed⟩ :: again)

/-- A line feed in front of everything else is a tile of its own. -/
theorem exists_lineFeed {tiles : List Tile} {ending rest : List Char}
    (tiling : Tiling tiles ending) (blank : Blank ending)
    (begins : spelling tiles ++ ending = '\n' :: rest) :
    ∃ others, tiles = ⟨[], Lexeme.lineFeed⟩ :: others := by
  cases tiles with
  | nil =>
    have listed : '\n' ∈ ending := by
      rw [← List.nil_append ending, ← spelling_nil, begins]
      exact List.mem_cons_self
    exact absurd listed blank.oneLine
  | cons tile others =>
    rcases tile with ⟨gap, lexeme⟩
    rcases tiling with ⟨blankGap, stands, _⟩
    rw [spelling_cons, List.append_assoc, List.append_assoc] at begins
    cases gap with
    | nil =>
      rcases stands.scan_eq with ⟨char, remaining, parts, _, found⟩
      rcases List.cons.inj (parts.symm.trans begins) with ⟨rfl, rfl⟩
      obtain rfl : lexeme = Lexeme.lineFeed := found.symm
      exact ⟨others, rfl⟩
    | cons char more =>
      obtain rfl : char = '\n' := (List.cons.inj begins).1
      exact absurd List.mem_cons_self blankGap.oneLine

/-- Every source is tiled with its returns as it is tiled without them, if no literal holds a
line feed. -/
theorem exists_returned {tiles : List Tile} {ending : List Char} (tiling : Tiling tiles ending)
    (blank : Blank ending)
    (literals : ∀ tile ∈ tiles, tile.lexeme.kind = .string → '\n' ∉ tile.lexeme.raw) :
    ∃ again, Returned ending tiles again ∧ Tiling again ending ∧
      spelling again ++ ending = Source.withReturns (spelling tiles ++ ending) := by
  match tiles with
  | [] => exact ⟨[], .nil, trivial, (Source.withReturns_of_oneLine blank.oneLine).symm⟩
  | ⟨gap, lexeme⟩ :: rest =>
    rcases tiling with ⟨blankGap, stands, later⟩
    rcases List.forall_mem_cons.mp literals with ⟨closed, restLiterals⟩
    by_cases newline : lexeme.kind = .newline
    · rcases exists_returned later blank restLiterals with ⟨again, related, tilingAgain, spelled⟩
      obtain rfl := stands.eq_lineFeed newline
      refine ⟨_, .newline blankGap.oneLine related, ⟨?_, .newline, tilingAgain⟩, ?_⟩
      · exact Lexeme.forall_append_return blankGap rfl
      · have parts : spelling (⟨gap, Lexeme.lineFeed⟩ :: rest) ++ ending =
            gap ++ '\n' :: (spelling rest ++ ending) := by simp [Lexeme.lineFeed]
        rw [parts, Source.withReturns_append_of_oneLine blankGap.oneLine,
          Source.withReturns_lineFeed, ← spelled]
        simp [Lexeme.lineFeed]
    have oneLine : '\n' ∉ chars ⟨gap, lexeme⟩ := by
      rw [chars, List.mem_append, not_or]
      refine ⟨blankGap.oneLine, ?_⟩
      by_cases literal : lexeme.kind = .string
      · exact closed literal
      · exact stands.oneLine newline literal
    by_cases begins : (spelling rest ++ ending).head? = some '\n'
    · rcases List.head?_eq_some_iff.mp begins with ⟨remaining, parts⟩
      rcases exists_lineFeed later blank parts with ⟨others, rfl⟩
      rcases exists_returned later.2.2 blank (List.forall_mem_cons.mp restLiterals).2 with
        ⟨again, related, tilingAgain, spelled⟩
      have whole : spelling (⟨gap, lexeme⟩ :: ⟨[], Lexeme.lineFeed⟩ :: others) ++ ending =
          chars ⟨gap, lexeme⟩ ++ '\n' :: (spelling others ++ ending) := by
        simp [chars, Lexeme.lineFeed]
      rw [parts] at stands
      rw [whole, Source.withReturns_append_of_oneLine oneLine, Source.withReturns_lineFeed,
        ← spelled]
      rcases stands.before_return (spelling again ++ ending) with
        ⟨noComment, stays⟩ | ⟨takes, taken⟩
      · refine ⟨_, .kept newline oneLine ?_ (.newline List.not_mem_nil related),
          ⟨blankGap, stays, Lexeme.forall_append_return blank_nil rfl, .newline, tilingAgain⟩, ?_⟩
        · intro comment
          rw [noComment] at comment
          cases comment
        · simp [chars, Lexeme.lineFeed]
      · refine ⟨_, .took takes oneLine related, ⟨blankGap, taken, blank_nil, .newline, tilingAgain⟩,
          ?_⟩
        simp [chars, Lexeme.lineFeed]
    · rcases exists_returned later blank restLiterals with ⟨again, related, tilingAgain, spelled⟩
      refine ⟨_, .kept newline oneLine ?_ related, ⟨blankGap, ?_, tilingAgain⟩, ?_⟩
      · intro comment
        rcases stands.after_comment comment with nothing | lineFeed
        · exact nothing
        · exact absurd lineFeed begins
      · rw [spelled]
        apply stands.replace_of (Lexeme.continues_withReturns begins)
        intro _ nothing
        rw [nothing]
        rfl
      · rw [spelling, spelling, List.append_assoc, List.append_assoc, spelled,
          Source.withReturns_append_of_oneLine oneLine]
termination_by tiles.length

end Tile

/-! ## Tokens -/

namespace Token

/-- A token of a source, and the same token of the source with its returns. -/
structure Returned (original again : Token) : Prop where
  kind : again.kind = original.kind
  text : again.text = original.text ∨
    Lexeme.mayTakeReturn original.kind ∧ again.text = original.text ++ "\r"
  location : original.kind ≠ .newline → again.location = original.location

/-- A token whose lexeme takes no return, at the place where it stands with the returns. -/
theorem returned_ofLexeme (left : List Char) (lexeme : Lexeme) :
    Returned (ofLexeme (Source.Position.start.after left) lexeme)
      (ofLexeme (Source.Position.start.after (Source.withReturns left)) lexeme) where
  kind := rfl
  text := Or.inl rfl
  location := fun _ => Source.Position.location_after_withReturns left

theorem returned_withReturn (left : List Char) {lexeme : Lexeme}
    (takes : Lexeme.mayTakeReturn lexeme.kind) :
    Returned (ofLexeme (Source.Position.start.after left) lexeme)
      (ofLexeme (Source.Position.start.after (Source.withReturns left)) lexeme.withReturn) where
  kind := rfl
  text := Or.inr ⟨takes, String.ofList_append⟩
  location := fun _ => Source.Position.location_after_withReturns left

/-- A line end, which may stand at another place of its line. -/
theorem returned_lineFeed (position positionAgain : Source.Position) :
    Returned (ofLexeme position Lexeme.lineFeed) (ofLexeme positionAgain Lexeme.lineFeed) where
  kind := rfl
  text := Or.inl rfl
  location := fun visible => absurd rfl visible

theorem returned_endOfSource {position positionAgain : Source.Position}
    (place : positionAgain.location = position.location) :
    Returned (endOfSource position) (endOfSource positionAgain) where
  kind := rfl
  text := Or.inl rfl
  location := fun _ => place

end Token

namespace Tile

theorem tokens_after_cons (left : List Char) (tile : Tile) (rest : List Tile) :
    tokens (Source.Position.start.after left) (tile :: rest) =
      Token.ofLexeme (Source.Position.start.after (left ++ tile.gap)) tile.lexeme ::
        tokens (Source.Position.start.after (left ++ tile.chars)) rest := by
  rw [tokens, Source.Position.after_append, Source.Position.after_append]

theorem withReturns_newline (left : List Char) {gap : List Char} (oneLine : '\n' ∉ gap) :
    Source.withReturns (left ++ chars ⟨gap, Lexeme.lineFeed⟩) =
      Source.withReturns left ++ chars ⟨gap ++ ['\r'], Lexeme.lineFeed⟩ := by
  rw [Source.withReturns_append, chars, Source.withReturns_append_of_oneLine oneLine]
  simp [chars, Lexeme.lineFeed]

theorem withReturns_took (left : List Char) {tile : Tile} (oneLine : '\n' ∉ tile.chars) :
    Source.withReturns (left ++ tile.chars ++ chars ⟨[], Lexeme.lineFeed⟩) =
      Source.withReturns left ++ chars ⟨tile.gap, tile.lexeme.withReturn⟩ ++
        chars ⟨[], Lexeme.lineFeed⟩ := by
  rw [Source.withReturns_append, Source.withReturns_append, Source.withReturns_of_oneLine oneLine]
  simp [chars, Lexeme.lineFeed]

theorem withReturns_gap (left : List Char) {tile : Tile} (oneLine : '\n' ∉ tile.chars) :
    Source.withReturns (left ++ tile.gap) = Source.withReturns left ++ tile.gap := by
  have gapOneLine : '\n' ∉ tile.gap := fun listed => oneLine (List.mem_append_left _ listed)
  rw [Source.withReturns_append, Source.withReturns_of_oneLine gapOneLine]

theorem withReturns_chars (left : List Char) {tile : Tile} (oneLine : '\n' ∉ tile.chars) :
    Source.withReturns (left ++ tile.chars) = Source.withReturns left ++ tile.chars := by
  rw [Source.withReturns_append, Source.withReturns_of_oneLine oneLine]

/-- The tokens of a source are those of the source with its returns. -/
theorem Returned.tokens {ending : List Char} {tiles again : List Tile}
    (related : Returned ending tiles again) (left : List Char) :
    List.Forall₂ Token.Returned (tokens (Source.Position.start.after left) tiles)
      (tokens (Source.Position.start.after (Source.withReturns left)) again) := by
  induction related generalizing left with
  | nil => exact .nil
  | @newline gap rest again oneLine later inductionHypothesis =>
    rw [tokens_after_cons, tokens_after_cons, ← withReturns_newline left oneLine]
    exact .cons (Token.returned_lineFeed _ _) (inductionHypothesis _)
  | @kept tile rest again visible oneLine ended later inductionHypothesis =>
    rw [tokens_after_cons, tokens_after_cons, ← withReturns_gap left oneLine,
      ← withReturns_chars left oneLine]
    exact .cons (Token.returned_ofLexeme _ _) (inductionHypothesis _)
  | @took tile rest again takes oneLine later inductionHypothesis =>
    rw [tokens_after_cons, tokens_after_cons, tokens_after_cons, tokens_after_cons,
      ← withReturns_took left oneLine, ← withReturns_gap left oneLine]
    exact .cons (Token.returned_withReturn _ takes)
      (.cons (Token.returned_lineFeed _ _) (inductionHypothesis _))

end Tile

/-! ## What a tag names -/

namespace Language

/-- White space behind a text that is not white space only stays behind it. -/
theorem dropWhile_append_return {property : Char → Bool} (inside : property '\r' = true)
    (chars : List Char) :
    (chars ++ ['\r']).dropWhile property =
      if chars.dropWhile property = [] then [] else chars.dropWhile property ++ ['\r'] := by
  rw [List.dropWhile_append]
  cases chars.dropWhile property with
  | nil => simp [inside]
  | cons char rest => rfl

theorem beginsWith_append_return {word : List Char} (noReturn : '\r' ∉ word)
    (chars : List Char) : beginsWith word (chars ++ ['\r']) = beginsWith word chars := by
  by_cases long : word.length ≤ chars.length
  · rw [beginsWith, List.take_append_of_le_length long, beginsWith]
  · -- the word is longer than the text, and the return is none of its characters
    have whole : (chars ++ ['\r']).take word.length = chars ++ ['\r'] :=
      List.take_of_length_le (by simp; omega)
    rw [beginsWith, beginsWith, whole, List.take_of_length_le (by omega), Bool.eq_iff_iff,
      beq_iff_eq, beq_iff_eq]
    apply iff_of_false
    · intro same
      apply noReturn
      rw [← same]
      exact List.mem_map_of_mem (List.mem_append_right chars List.mem_cons_self)
    · intro same
      apply long
      rw [← same, List.length_map]

theorem stripWord?_append_return {word : List Char} (noReturn : '\r' ∉ word)
    (chars : List Char) :
    stripWord? word (chars ++ ['\r']) = (stripWord? word chars).map (· ++ ['\r']) := by
  rw [stripWord?, stripWord?, beginsWith_append_return noReturn]
  split
  · rename_i begins
    have length := congrArg List.length (beq_iff_eq.mp begins)
    rw [List.length_map, List.length_take] at length
    rw [List.drop_append_of_le_length (by omega)]
    rfl
  · rfl

theorem attributeHere?_append_return (chars : List Char) :
    attributeHere? (chars ++ ['\r']) = attributeHere? chars := by
  unfold attributeHere?
  rw [stripWord?_append_return (by decide)]
  cases stripWord? ['L', 'A', 'N', 'G'] chars with
  | none => rfl
  | some afterName =>
    simp only [Option.map_some, Option.bind_eq_bind, Option.bind_some,
      dropWhile_append_return (show Text.isWhiteSpace '\r' = true by decide)]
    cases afterName.dropWhile Text.isWhiteSpace with
    | nil => rfl
    | cons sign afterSign =>
      by_cases equals : sign = '='
      · subst equals
        simp only [reduceCtorEq, if_false, List.cons_append,
          dropWhile_append_return (show Text.isWhiteSpace '\r' = true by decide)]
        cases afterSign.dropWhile Text.isWhiteSpace with
        | nil => rfl
        | cons opening quoted =>
          have stops : Lexeme.Stops Text.isWordChar ['\r'] := Lexeme.stops_return (by decide) []
          have noQuote : isQuote '\r' = false := by decide
          simp only [reduceCtorEq, if_false, List.cons_append,
            Lexeme.takeWhile_append_of_stops quoted stops, List.dropWhile_append]
          cases quoted.dropWhile Text.isWordChar with
          | nil =>
            have behind : ['\r'].dropWhile Text.isWordChar = ['\r'] := by decide
            simp [behind, noQuote]
          | cons closing rest => rfl
      · simp only [reduceCtorEq, if_false, List.cons_append]
        split
        · rename_i same
          exact absurd (List.cons.inj same).1 equals
        · split
          · rename_i same
            exact absurd (List.cons.inj same).1 equals
          · rfl

theorem attribute?_append_return (chars : List Char) :
    attribute? (chars ++ ['\r']) = attribute? chars := by
  induction chars with
  | nil => rfl
  | cons char rest inductionHypothesis =>
    have here := attributeHere?_append_return (char :: rest)
    rw [List.cons_append] at here
    rw [List.cons_append, attribute?, attribute?, here, inductionHypothesis]

/-- A carriage return behind a tag does not change what it names. -/
theorem ofTag?_append_return (tag : String) : ofTag? (tag ++ "\r") = ofTag? tag := by
  have whole : (tag ++ "\r").toList = tag.toList ++ ['\r'] := String.toList_append
  simp only [ofTag?, whole, attribute?_append_return,
    beginsWith_append_return (show '\r' ∉ "PYTHON".toList by decide),
    beginsWith_append_return (show '\r' ∉ "JAVASCRIPT".toList by decide),
    beginsWith_append_return (show '\r' ∉ "JS".toList by decide),
    beginsWith_append_return (show '\r' ∉ "LANGUAGE[".toList by decide)]

end Language
end Ritual
