import Ritual.Proofs.Segment.Body
import Ritual.Proofs.Token.Located
import Ritual.Proofs.Tree.Blocks

namespace Ritual

/-!
# Reading a body again

A body that is cut from its source loses no code.  Reading it again gives the
kinds and the texts of the tokens that stand behind the tag, and each of them is
moved up by the same number of lines.  Columns stay, except on the line of the
tag, where the code begins behind the tag, and except for the line ends, which
move to the left by the blanks that are cut away in front of them.
-/

namespace Token

/-- What is in front of the first token matters only if that is a line end. -/
theorem moved_of_start {tag : Token} {offset stop other : Nat} {tokens seen : List Token}
    (stops : Lexeme.Stops Line.endsLine tokens)
    (moved : List.Forall₂ (Moved tag offset) (withGaps stop tokens) seen) :
    List.Forall₂ (Moved tag offset) (withGaps other tokens) seen := by
  cases tokens with
  | nil => exact moved
  | cons token rest =>
    cases moved with
    | cons first later =>
      have noNewline : token.kind ≠ .newline := by
        simpa [Line.endsLine] using Lexeme.stops_cons.mp stops
      exact .cons (first.of_gap noNewline) later

theorem map_kind_of_moved {tag : Token} {offset stop : Nat} {tokens seen : List Token}
    (moved : List.Forall₂ (Moved tag offset) (withGaps stop tokens) seen) :
    seen.map Token.kind = tokens.map Token.kind := by
  induction tokens generalizing stop seen with
  | nil =>
    cases moved
    rfl
  | cons token rest inductionHypothesis =>
    cases moved with
    | cons first later =>
      rw [List.map_cons, List.map_cons, first.kind, inductionHypothesis later]

end Token

namespace Tile

/-- Where the code of a segment begins in the source and in the body positions
are aligned. -/
theorem exists_aligned {sharesLine : Bool} {tag : Token} {left : List Char}
    (begins : Line.Begins sharesLine tag.location.line.toNat left) {tiles : List Tile}
    {after : List Char} (tiling : Tiling tiles after) :
    ∃ front, left ++ spelling tiles = front ++ spelling (withoutFirstGap sharesLine tiles) ∧
      tokens (Source.Position.start.after left) tiles =
        tokens (Source.Position.start.after front) (withoutFirstGap sharesLine tiles) ∧
      Aligned tag.location.line.toNat ((Source.Position.start.after left).line - 1)
        (Source.Position.start.after front) Source.Position.start := by
  have counted := Source.Position.line_after Source.Position.start left
  have first : Source.Position.start.line = 1 := rfl
  have firstColumn : Source.Position.start.column = 1 := rfl
  cases shares : sharesLine with
  | false =>
    refine ⟨left, rfl, rfl, by omega, ?_, ?_⟩
    · intro _
      rw [Source.Position.column_after_lines (begins.own shares).1]
      rfl
    · rw [Source.Position.column_after_lines (begins.own shares).1]
      exact Nat.le_refl 1
  | true =>
    have line := begins.shared shares
    cases tiles with
    | nil =>
      refine ⟨left, rfl, rfl, by omega, fun elsewhere => absurd line elsewhere, ?_⟩
      exact Source.Position.one_le_column_after (Nat.le_refl 1) left
    | cons tile rest =>
      have same : (Source.Position.start.after (left ++ tile.gap)).line =
          (Source.Position.start.after left).line := by
        rw [Source.Position.after_append,
          Source.Position.line_after_of_oneLine _ tiling.1.oneLine]
      refine ⟨left ++ tile.gap, ?_, ?_, by omega, ?_, ?_⟩
      · simp [withoutFirstGap]
      · simp [withoutFirstGap, Source.Position.after_append]
      · intro elsewhere
        exact absurd (same.trans line) elsewhere
      · exact Source.Position.one_le_column_after (Nat.le_refl 1) _

/-- A body that spells tiles without the blanks that are cut away is read as their
tokens, moved. -/
theorem exists_relexed {sharesLine : Bool} {tag : Token} {left after : List Char}
    {tiles : List Tile} (begins : Line.Begins sharesLine tag.location.line.toNat left)
    (tiling : Tiling tiles after) (stops : Lexeme.Stops endsLine tiles)
    (countable : Source.Countable (left ++ (spelling tiles ++ after))) {body : String}
    (spelled : body.toList = spelling ((withoutFirstGap sharesLine tiles).map trimmed))
    (stop : Nat) :
    ∃ seen ending offset, Token.tokenize body = seen ++ [ending] ∧ ending.kind = .eof ∧
      List.Forall₂ (Token.Moved tag offset)
        (Token.withGaps stop (tokens (Source.Position.start.after left) tiles)) seen := by
  rcases exists_aligned begins tiling with ⟨front, parts, sameTokens, aligned⟩
  have cutTiling := tiling_withoutFirstGap tiling sharesLine
  have frontCountable : Source.Countable
      (front ++ (spelling (withoutFirstGap sharesLine tiles) ++ after)) := by
    rw [← List.append_assoc, ← parts, List.append_assoc]
    exact countable
  have moved := moved_tokens rfl frontCountable cutTiling aligned
  rw [← sameTokens] at moved
  -- nothing stands behind the body, and that may follow whatever was cut off
  have bodyTiling := tiling_trimmed cutTiling (Lexeme.MayFollow.nil _)
  have seen : Token.tokenize body =
      tokens Source.Position.start ((withoutFirstGap sharesLine tiles).map trimmed) ++
        [Token.endOfSource (Source.Position.start.after body.toList)] :=
    Reading.tokenize_eq ⟨_, [], spelled.trans (List.append_nil _).symm, bodyTiling,
      blank_nil⟩
  have first := stops_tokens (· == .newline) stops (Source.Position.start.after left)
  exact ⟨_, _, _, seen, rfl, Token.moved_of_start first moved⟩

end Tile

namespace Segment

theorem begins_behind_tag {left gap : List Char} {lexeme : Lexeme} {after : List Char}
    (stands : Lexeme.Stands lexeme after) (opens : lexeme.kind.opensBlock = true)
    (countable : Source.Countable (left ++ gap ++ (lexeme.raw ++ after))) :
    Line.Begins true (Token.ofLexeme (Source.Position.start.after (left ++ gap))
      lexeme).location.line.toNat (left ++ gap ++ lexeme.raw) where
  shared := by
    intro _
    have oneLine := stands.oneLine_of_opensBlock opens
    rw [Source.Position.after_append, Source.Position.line_after_of_oneLine _ oneLine]
    exact (Source.Position.line_toNat countable.line_lt).symm
  own := by
    intro impossible
    cases impossible

/-- A body in which the code of a segment is read again, and of which no line had
to be joined from the texts of tokens. -/
structure ReadAgain (source : List Char) (segment : Segment) (body : String) : Prop where
  isCut : ∀ line ∈ segment.lines, Line.IsCut source segment.tag line
  relexed : ∃ seen ending offset, Token.tokenize body = seen ++ [ending] ∧ ending.kind = .eof ∧
    (∀ token ∈ seen, token.kind.opensBlock = false) ∧
    List.Forall₂ (Token.Moved segment.tag offset)
      (Token.withGaps segment.tag.span.stop segment.code) seen

theorem few_of_countable {left after : List Char} {content : List Tile}
    (countable : Source.Countable (left ++ (Tile.spelling content ++ after))) :
    (Tile.spelling content).count '\n' + 1 < UInt32.size := by
  rw [← List.append_assoc] at countable
  have line := countable.line_lt
  have first : Source.Position.start.line = 1 := rfl
  rw [Source.Position.after_append, Source.Position.line_after, Source.Position.line_after,
    first] at line
  omega

theorem near_of_countable {left after : List Char} {content : List Tile}
    (countable : Source.Countable (left ++ (Tile.spelling content ++ after))) :
    (Tile.spelling (withoutLast Tile.endsLine content)).count '\n' < UInt32.size := by
  have few := few_of_countable countable
  rcases exists_withoutLast_append Tile.endsLine content with ⟨cutOff, whole⟩
  rw [whole, Tile.spelling_append, List.count_append] at few
  omega

/-- The code of a segment whose content tiles a part of the source is read again
in its body. -/
theorem readAgain_of_tiling {source : List Char} {segment : Segment} {left after : List Char}
    {content : List Tile} (parts : source = left ++ (Tile.spelling content ++ after))
    (countable : Source.Countable source)
    (begins : Line.Begins true segment.tag.location.line.toNat left)
    (tiling : Tile.Tiling content after)
    (tokens : segment.content = Tile.tokens (Source.Position.start.after left) content)
    (unopened : ∀ token ∈ segment.content, token.kind.opensBlock = false) :
    ReadAgain source segment (segment.body .source source) := by
  have tagged : segment.tag.location.line = UInt32.ofNat segment.tag.location.line.toNat :=
    (UInt32.ofNat_toNat).symm
  rcases written_of_tiling parts begins tagged (near_of_countable (parts ▸ countable)) tiling
    tokens with ⟨isCut, spelled⟩
  rcases Lexeme.exists_run Tile.endsLine content with ⟨ends, tiles, rfl, newlines, stops⟩
  rcases Tile.tiling_append.mp tiling with ⟨endsTiling, tilesTiling⟩
  have beginsLater := begins_behind_ends begins endsTiling newlines
  have dropped : segment.content.dropWhile Line.endsLine =
      Tile.tokens (Source.Position.start.after (left ++ Tile.spelling ends)) tiles := by
    rw [tokens, Tile.tokens_dropWhile_of_stops newlines stops, Source.Position.after_append]
  have tilesParts : source = left ++ Tile.spelling ends ++ (Tile.spelling tiles ++ after) := by
    rw [parts, Tile.spelling_append, List.append_assoc, List.append_assoc]
  rw [Tile.code_of_stops newlines stops] at spelled
  have code : segment.code = Tile.tokens (Source.Position.start.after (left ++ Tile.spelling ends))
      (withoutLast Tile.endsLine tiles) := by
    rw [Segment.code, dropped, Tile.withoutLast_tokens]
  rcases exists_withoutLast_append Tile.endsLine tiles with ⟨cutOff, whole⟩
  generalize withoutLast Tile.endsLine tiles = kept at spelled code whole
  subst whole
  have keptTiling := (Tile.tiling_append.mp tilesTiling).1
  rw [tilesParts, Tile.spelling_append, List.append_assoc (Tile.spelling kept)] at countable
  rcases Tile.exists_relexed beginsLater keptTiling stops.of_append countable spelled
    segment.tag.span.stop with
    ⟨seen, ending, offset, relexed, ends, moved⟩
  rw [← code] at moved
  refine ⟨isCut, seen, ending, offset, relexed, ends, ?_, moved⟩
  intro token listed
  have kind : token.kind ∈ segment.code.map Token.kind := by
    rw [← Token.map_kind_of_moved moved]
    exact List.mem_map_of_mem listed
  rcases List.mem_map.mp kind with ⟨original, inCode, same⟩
  rw [← same]
  exact unopened original (mem_content_of_mem_code inCode)

end Segment

namespace Tree

/-- A language tag and the tokens up to the next tag tile a part of the source. -/
theorem exists_segment_tiles {source : String} (reading : Tile.Reading source.toList)
    {before after : List Token} {tag : Token}
    (parts : Token.tokenize source = before ++ tag :: after)
    (kind : tag.kind = .languageParam) :
    ∃ front tile content others, reading.tiles = front ++ tile :: (content ++ others) ∧
      tag = Token.ofLexeme (Source.Position.start.after (Tile.spelling front ++ tile.gap))
        tile.lexeme ∧
      (Segment.ofTag tag after).content = Tile.tokens (Source.Position.start.after
        (Tile.spelling front ++ tile.gap ++ tile.lexeme.raw)) content ∧
      ∀ tile ∈ content, tile.lexeme.kind.opensBlock = false := by
  rw [reading.tokenize_eq] at parts
  rcases List.eq_nil_or_concat after with rfl | ⟨tokens, ending, rfl⟩
  · rcases List.append_inj' parts rfl with ⟨_, same⟩
    rw [← (List.cons.inj same).1] at kind
    cases kind
  · rw [List.concat_eq_append, ← List.cons_append, ← List.append_assoc] at parts
    rcases List.append_inj' parts rfl with ⟨split, same⟩
    obtain rfl := (List.cons.inj same).1
    rcases Tile.tokens_eq_append split with ⟨front, second, whole, rfl, behind⟩
    cases second with
    | nil => cases behind
    | cons tile rest =>
      rw [Tile.tokens_cons] at behind
      rcases List.cons.inj behind with ⟨rfl, rfl⟩
      have tiling := reading.tiling
      rw [whole] at tiling
      have restTiling := (Tile.tiling_append.mp tiling).2.2.2
      rcases Lexeme.exists_run (fun tile => !tile.lexeme.kind.opensBlock) rest with
        ⟨content, others, rfl, inside, stops⟩
      refine ⟨front, tile, content, others, whole, ?_, ?_, ?_⟩
      · rw [Source.Position.after_append]
      · rw [List.concat_eq_append, Segment.ofTag_append_ending _ rfl
          (endless_tokens restTiling _), Tile.tokens_append,
          Source.Position.after_append, Source.Position.after_append]
        exact Lexeme.takeWhile_of_stops
          (Tile.kind_tokens (fun kind => !kind.opensBlock) inside _)
          (Tile.stops_tokens (fun kind => !kind.opensBlock) stops _)
      · simpa using inside

/-- The code of every block is read again in its body. -/
theorem code_read_again {source : String} (countable : Source.Countable source.toList)
    {index : Nat} {block : Block}
    (found : (parse .source source (Token.tokenize source)).blocks[index]? = some block) :
    ∃ before tag after, Token.tokenize source = before ++ tag :: after ∧
      tag.kind = .languageParam ∧ before.countP Segment.opensLanguage = index ∧
      block.location = tag.location ∧
      Segment.ReadAgain source.toList (Segment.ofTag tag after) block.body := by
  rcases exists_related (blocks_parse .source source) found with
    ⟨⟨tag, after⟩, tagged, makes⟩
  rcases Segment.exists_of_languageTags tagged with ⟨before, parts, language, count⟩
  have kind := Segment.kind_of_opensLanguage language
  refine ⟨before, tag, after, parts, kind, count, makes.location, ?_⟩
  rw [makes.body]
  rcases Tile.exists_reading source.toList with ⟨reading⟩
  rcases exists_segment_tiles reading parts kind with
    ⟨front, tile, content, others, tiles, rfl, tokens, unopened⟩
  rcases reading.exists_around tiles with ⟨tagParts, stands⟩
  have tiling := reading.tiling
  rw [tiles] at tiling
  have contentTiling := (Tile.tiling_append.mp tiling).2.2.2
  have opens : tile.lexeme.kind.opensBlock = true := Segment.opensBlock_of_language language
  have contentParts : source.toList = Tile.spelling front ++ tile.gap ++ tile.lexeme.raw ++
      (Tile.spelling content ++ (Tile.spelling others ++ reading.gap)) :=
    tagParts.trans (by simp)
  apply Segment.readAgain_of_tiling contentParts countable
    (Segment.begins_behind_tag stands opens (tagParts ▸ countable))
    (Tile.tiling_append.mp contentTiling).1 tokens
  intro token listed
  rw [tokens] at listed
  exact Tile.kind_tokens TokenKind.opensBlock unopened _ token listed

/-- Code on the line of the tag, a line with blanks at its end and an empty line
are read again. -/
theorem code_read_again_python :
    Source.Countable "PYTHON:: a\nb  \n\nc\n".toList ∧
      (parse .source "PYTHON:: a\nb  \n\nc\n"
        (Token.tokenize "PYTHON:: a\nb  \n\nc\n")).blocks[0]? =
          some ⟨"python_block", "python", "a\nb\n\nc", ⟨1, 1⟩⟩ ∧
      ∃ before tag after, Token.tokenize "PYTHON:: a\nb  \n\nc\n" = before ++ tag :: after ∧
        tag.kind = .languageParam ∧ before.countP Segment.opensLanguage = 0 ∧
        (⟨1, 1⟩ : Source.Location) = tag.location ∧
        Segment.ReadAgain "PYTHON:: a\nb  \n\nc\n".toList (Segment.ofTag tag after)
          "a\nb\n\nc" := by
  have countable : Source.Countable "PYTHON:: a\nb  \n\nc\n".toList :=
    Source.countable_of_length (by decide)
  have found : (parse .source "PYTHON:: a\nb  \n\nc\n"
      (Token.tokenize "PYTHON:: a\nb  \n\nc\n")).blocks[0]? =
        some ⟨"python_block", "python", "a\nb\n\nc", ⟨1, 1⟩⟩ := by
    decide +kernel
  exact ⟨countable, found, code_read_again countable found⟩

/-- The columns of line ends are not kept where blanks are cut away in front of
them. -/
theorem columns_not_all_kept :
    ¬ ∀ (source : String) (index : Nat) (block : Block), Source.Countable source.toList →
      (parse .source source (Token.tokenize source)).blocks[index]? = some block →
      ∀ before tag after, Token.tokenize source = before ++ tag :: after →
        tag.kind = .languageParam → before.countP Segment.opensLanguage = index →
        List.Forall₂ (fun original again => original.location.line ≠ tag.location.line →
            again.location.column = original.location.column)
          (Segment.ofTag tag after).code (Token.tokenize block.body).dropLast := by
  intro kept
  have found : (parse .source "PYTHON::\na   \nb"
      (Token.tokenize "PYTHON::\na   \nb")).blocks[0]? =
        some ⟨"python_block", "python", "a\nb", ⟨1, 1⟩⟩ := by
    decide +kernel
  have parts : Token.tokenize "PYTHON::\na   \nb" = [] ++
      ⟨.languageParam, "PYTHON::", ⟨1, 1⟩, ⟨0, 8⟩⟩ ::
        (Token.tokenize "PYTHON::\na   \nb").drop 1 := by
    decide +kernel
  have columns := kept _ 0 _ (Source.countable_of_length (by decide)) found _ _ _ parts rfl rfl
  have lineEnd := (List.forall₂_iff_get.mp columns).2 1 (by decide +kernel) (by decide +kernel)
  revert lineEnd
  decide +kernel

end Tree
end Ritual
