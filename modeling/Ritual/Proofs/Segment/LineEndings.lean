import Mathlib.Data.List.TakeWhile
import Ritual.Proofs.Collections
import Ritual.Proofs.Line.LineEndings

namespace Ritual

/-!
# Segments of a source with returns

A source has the segments that it has with its returns, and their lines are written alike,
but for the returns that comments took.  So a body has a return exactly if one of its lines
ends in a comment with something behind it.
-/

namespace Tile

theorem takeWhile_tokens (property : TokenKind → Bool) (position : Source.Position)
    (tiles : List Tile) :
    (tokens position tiles).takeWhile (fun token => property token.kind) =
      tokens position (tiles.takeWhile fun tile => property tile.lexeme.kind) := by
  rcases Lexeme.exists_run (fun tile : Tile => property tile.lexeme.kind) tiles with
    ⟨run, rest, rfl, inside, stops⟩
  rw [tokens_append, Lexeme.takeWhile_of_stops inside stops,
    Lexeme.takeWhile_of_stops (kind_tokens property inside _) (stops_tokens property stops _)]

/-- Whether a tile is no tag, so that it stands in the segment of the tag before it. -/
def inSegment (tile : Tile) : Bool :=
  !tile.lexeme.kind.opensBlock

theorem spelling_takeWhile_append (tiles : List Tile) :
    spelling (tiles.takeWhile inSegment) ++ spelling (tiles.dropWhile inSegment) =
      spelling tiles := by
  rw [← spelling_append, List.takeWhile_append_dropWhile]

theorem Returned.takeWhile {ending : List Char} {tiles again : List Tile}
    (related : Returned ending tiles again) :
    Returned (spelling (tiles.dropWhile inSegment) ++ ending) (tiles.takeWhile inSegment)
      (again.takeWhile inSegment) := by
  induction related with
  | nil => exact .nil
  | @newline gap rest restAgain oneLine later inductionHypothesis =>
    rw [List.takeWhile_cons_of_pos rfl, List.takeWhile_cons_of_pos rfl,
      List.dropWhile_cons_of_pos rfl]
    exact .newline oneLine inductionHypothesis
  | @kept tile rest restAgain visible oneLine ended later inductionHypothesis =>
    cases inside : tile.inSegment with
    | false =>
      rw [List.takeWhile_cons_of_neg (by simp [inside]),
        List.takeWhile_cons_of_neg (by simp [inside])]
      exact .nil
    | true =>
      rw [List.takeWhile_cons_of_pos inside, List.takeWhile_cons_of_pos inside,
        List.dropWhile_cons_of_pos inside]
      refine .kept visible oneLine ?_ inductionHypothesis
      intro comment
      rw [← List.append_assoc, spelling_takeWhile_append]
      exact ended comment
  | @took tile rest restAgain takes oneLine later inductionHypothesis =>
    cases inside : tile.inSegment with
    | false =>
      have insideAgain : inSegment ⟨tile.gap, tile.lexeme.withReturn⟩ = false := inside
      rw [List.takeWhile_cons_of_neg (by simp [inside]),
        List.takeWhile_cons_of_neg (by simp [insideAgain])]
      exact .nil
    | true =>
      have insideAgain : inSegment ⟨tile.gap, tile.lexeme.withReturn⟩ = true := inside
      rw [List.takeWhile_cons_of_pos inside, List.takeWhile_cons_of_pos insideAgain,
        List.takeWhile_cons_of_pos rfl, List.takeWhile_cons_of_pos rfl,
        List.dropWhile_cons_of_pos inside, List.dropWhile_cons_of_pos rfl]
      exact .took takes oneLine inductionHypothesis

end Tile

namespace Segment

/-! ## Segments -/

/-- A segment of a source, and the same segment of the source with its returns. -/
structure Returned (source again : List Char) (segment segmentAgain : Segment) : Prop where
  tag : Token.Returned segment.tag segmentAgain.tag
  lines : List.Forall₂ (Line.Returned source again segment.tag segmentAgain.tag) segment.lines
    segmentAgain.lines

variable {source again left ending endingAgain : List Char} {tiles tilesAgain : List Tile}

/-- The segment of a tag and of the tiles behind it. -/
theorem returned_of_tag {tag tagAgain : Token} (tagged : Token.Returned tag tagAgain)
    (opens : tag.kind.opensBlock = true) (related : Tile.Returned ending tiles tilesAgain)
    (noReturn : '\r' ∉ source) (parts : source = left ++ (Tile.spelling tiles ++ ending))
    (againParts : again = Source.withReturns left ++ (Tile.spelling tilesAgain ++ endingAgain)) :
    Returned source again
      ⟨tag, (Tile.tokens (Source.Position.start.after left) tiles).takeWhile
        fun next => !next.kind.opensBlock⟩
      ⟨tagAgain, (Tile.tokens (Source.Position.start.after (Source.withReturns left))
        tilesAgain).takeWhile fun next => !next.kind.opensBlock⟩ := by
  have visible : tag.kind ≠ .newline := by
    intro newline
    rw [newline] at opens
    cases opens
  have unopened : ∀ tile ∈ tiles.takeWhile Tile.inSegment,
      tile.lexeme.kind.opensBlock = false := by
    intro tile listed
    simpa [Tile.inSegment] using List.mem_takeWhile_imp listed
  have taken := Tile.takeWhile_tokens fun kind => !kind.opensBlock
  refine ⟨tagged, ?_⟩
  simp only [taken]
  apply Line.lines_dropWhile_returned related.takeWhile unopened (tagged.location visible) noReturn
  · rw [parts, ← Tile.spelling_takeWhile_append tiles, List.append_assoc]
  · rw [againParts, ← Tile.spelling_takeWhile_append tilesAgain, List.append_assoc]

/-- The line end behind a tag begins no line of its segment. -/
theorem returned_behind_lineFeed {tag tagAgain newline newlineAgain : Token}
    {rest restAgain : List Token} (ends : newline.kind = .newline)
    (endsAgain : newlineAgain.kind = .newline)
    (related : Returned source again ⟨tag, rest.takeWhile fun next => !next.kind.opensBlock⟩
      ⟨tagAgain, restAgain.takeWhile fun next => !next.kind.opensBlock⟩) :
    Returned source again
      ⟨tag, (newline :: rest).takeWhile fun next => !next.kind.opensBlock⟩
      ⟨tagAgain, (newlineAgain :: restAgain).takeWhile fun next => !next.kind.opensBlock⟩ := by
  have same : ∀ (tag newline : Token) (rest : List Token), newline.kind = .newline →
      lines ⟨tag, (newline :: rest).takeWhile fun next => !next.kind.opensBlock⟩ =
        lines ⟨tag, rest.takeWhile fun next => !next.kind.opensBlock⟩ := by
    intro tag newline rest ends
    rw [List.takeWhile_cons_of_pos (by rw [ends]; rfl), lines,
      List.dropWhile_cons_of_pos (by rw [ends]; rfl), lines]
  refine ⟨related.tag, ?_⟩
  rw [same _ _ _ ends, same _ _ _ endsAgain]
  exact related.lines

theorem forall₂_ofTokens_cons {token tokenAgain : Token} {rest restAgain : List Token}
    (related : Token.Returned token tokenAgain)
    (here : token.kind.opensBlock = true →
      Returned source again ⟨token, rest.takeWhile fun next => !next.kind.opensBlock⟩
        ⟨tokenAgain, restAgain.takeWhile fun next => !next.kind.opensBlock⟩)
    (behind : List.Forall₂ (Returned source again) (ofTokens rest) (ofTokens restAgain)) :
    List.Forall₂ (Returned source again) (ofTokens (token :: rest))
      (ofTokens (tokenAgain :: restAgain)) := by
  rw [ofTokens, ofTokens, related.kind]
  split
  · rename_i opens
    exact .cons (here opens) behind
  · exact behind

/-- The segments of a source are those of the source with its returns. -/
theorem segments_returned (related : Tile.Returned ending tiles tilesAgain)
    (noReturn : '\r' ∉ source) (parts : source = left ++ (Tile.spelling tiles ++ ending))
    (againParts : again = Source.withReturns left ++ (Tile.spelling tilesAgain ++ endingAgain)) :
    List.Forall₂ (Returned source again)
      (ofTokens (Tile.tokens (Source.Position.start.after left) tiles))
      (ofTokens (Tile.tokens (Source.Position.start.after (Source.withReturns left))
        tilesAgain)) := by
  induction related generalizing left with
  | nil => exact .nil
  | @newline gap rest restAgain gapOneLine later inductionHypothesis =>
    have same := Tile.withReturns_newline left gapOneLine
    rw [Tile.tokens_after_cons, Tile.tokens_after_cons, ← same]
    apply forall₂_ofTokens_cons (Token.returned_lineFeed _ _)
      (fun opens => absurd opens Bool.false_ne_true)
    apply inductionHypothesis
    · rw [parts, Tile.spelling, List.append_assoc, List.append_assoc]
    · rw [againParts, same, Tile.spelling, List.append_assoc, List.append_assoc]
  | @kept tile rest restAgain visible oneLine ended later inductionHypothesis =>
    have same := Tile.withReturns_chars left oneLine
    have restParts : source = left ++ tile.chars ++ (Tile.spelling rest ++ ending) := by
      rw [parts, Tile.spelling, List.append_assoc, List.append_assoc]
    have restAgainParts : again = Source.withReturns (left ++ tile.chars) ++
        (Tile.spelling restAgain ++ endingAgain) := by
      rw [againParts, same, Tile.spelling, List.append_assoc, List.append_assoc]
    have tagged := Token.returned_ofLexeme (left ++ tile.gap) tile.lexeme
    rw [Tile.tokens_after_cons, Tile.tokens_after_cons, ← same,
      ← Tile.withReturns_gap left oneLine]
    exact forall₂_ofTokens_cons tagged
      (fun opens => returned_of_tag tagged opens later noReturn restParts restAgainParts)
      (inductionHypothesis restParts restAgainParts)
  | @took tile rest restAgain takes oneLine later inductionHypothesis =>
    have same := Tile.withReturns_took left oneLine
    have restParts : source = left ++ tile.chars ++ Tile.chars ⟨[], Lexeme.lineFeed⟩ ++
        (Tile.spelling rest ++ ending) := by
      simp [parts, Tile.spelling]
    have restAgainParts : again =
        Source.withReturns (left ++ tile.chars ++ Tile.chars ⟨[], Lexeme.lineFeed⟩) ++
          (Tile.spelling restAgain ++ endingAgain) := by
      rw [same]
      simp [againParts, Tile.spelling]
    have tagged := Token.returned_withReturn (left ++ tile.gap) takes
    rw [Tile.tokens_after_cons, Tile.tokens_after_cons, Tile.tokens_after_cons,
      Tile.tokens_after_cons, ← same, ← Tile.withReturns_gap left oneLine]
    apply forall₂_ofTokens_cons tagged
    · intro opens
      exact returned_behind_lineFeed rfl rfl
        (returned_of_tag tagged opens later noReturn restParts restAgainParts)
    · exact forall₂_ofTokens_cons (Token.returned_lineFeed _ _)
        (fun opens => absurd opens Bool.false_ne_true)
        (inductionHypothesis restParts restAgainParts)

/-! ## Bodies -/

namespace Returned

variable {segment segmentAgain : Segment}

theorem withoutReturns_body (related : Returned source again segment segmentAgain) :
    Source.withoutReturns (segmentAgain.body .source again) = segment.body .source source := by
  have texts : segment.lines.map (fun line =>
        (Line.render .source source segment.tag line).toList) =
      segmentAgain.lines.map fun line =>
        (Line.render .source again segmentAgain.tag line).toList.filter (· != '\r') :=
    map_eq_of_forall₂ related.lines fun _ _ line => line.filter_text.symm
  rw [← String.toList_inj, Source.toList_withoutReturns, body, body, String.toList_intercalate,
    String.toList_intercalate, List.map_map, List.map_map]
  have separator : "\n".toList = ['\n'] := rfl
  rw [separator, filter_intercalate (by decide), List.map_map]
  exact congrArg _ texts.symm

/-- A body has a return exactly if one of its lines ends in a comment. -/
theorem not_mem_body (related : Returned source again segment segmentAgain) :
    '\r' ∉ (segmentAgain.body .source again).toList ↔
      ∀ line ∈ segment.lines, Line.endsInComment source line = false := by
  have separator : "\n".toList = ['\n'] := rfl
  rw [body, String.toList_intercalate, separator, not_mem_intercalate (by decide), List.map_map,
    forall_mem_iff_of_forall₂ related.lines fun _ _ line => line.not_mem_text.symm]
  simp

end Returned
end Segment
end Ritual
