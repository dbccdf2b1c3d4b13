import Ritual.Proofs.Segment.Body

namespace Ritual

/-!
# A segment that is written back

A segment is written back as its tag on a line of its own, its body, and a line feed.
What stood behind it in the source is gone then: a line feed takes its place, which may
stand behind every lexeme but a literal without its closing quote.  Hence the same
lexemes stand in the written segment, whatever follows it, and they have the same code.
-/

namespace Lexeme

/-! ## Literals with their closing quotes -/

/-- The body of a literal does not reach over its closing quote. -/
theorem LiteralBody.not_append_quote {quote : Char} {raw value : List Char}
    (body : LiteralBody quote raw value) (ordinary : quote ≠ '\\') (other : List Char) :
    ¬LiteralBody quote (raw ++ [quote]) other := by
  intro longer
  have short := body.literal_append ordinary [quote, quote]
  have long := longer.literal_append ordinary [quote]
  have parts : raw ++ [quote] ++ [quote] = raw ++ [quote, quote] := by simp
  rw [literal_closing] at short long
  rw [parts, short] at long
  have lengths := congrArg List.length (Prod.mk.inj long).1
  simp at lengths

theorem not_unclosed {lexeme : Lexeme} {quote : Char} {raw value : List Char}
    (quoted : quote = '"' ∨ quote = '\'') (body : LiteralBody quote raw value)
    (closed : lexeme.raw = quote :: (raw ++ [quote])) : ¬Unclosed lexeme := by
  intro unclosed
  have ordinary := not_backslash_of_quoted quoted
  cases unclosed with
  | opened _ longer =>
    rcases List.cons.inj closed with ⟨rfl, rfl⟩
    exact body.not_append_quote ordinary _ longer
  | broken _ _ =>
    rcases List.append_inj' (List.cons.inj closed).2 rfl with ⟨_, same⟩
    exact ordinary (List.cons.inj same).1.symm

theorem Unclosed.kind {lexeme : Lexeme} (unclosed : Unclosed lexeme) : lexeme.kind = .string := by
  cases unclosed <;> rfl

end Lexeme

namespace Tile

/-! ## The tiles of a written segment -/

/-- A line feed with nothing in front of it. -/
def lineFeed : Tile :=
  ⟨[], Lexeme.verbatim .newline ['\n']⟩

/-- The tiles behind the tag of a written segment: the tag's line ends, and so does the last
line of the code. -/
def behindTag (content : List Tile) : List Tile :=
  lineFeed :: (code content ++ [lineFeed])

/-- The code is a part of the content, without blanks. -/
theorem exists_kept (content : List Tile) :
    ∃ front kept back sharesLine, content = front ++ (kept ++ back) ∧
      Lexeme.Stops endsLine kept ∧
      code content = (withoutFirstGap sharesLine kept).map trimmed := by
  rcases Lexeme.exists_run endsLine content with ⟨ends, tiles, rfl, newlines, stops⟩
  rcases exists_withoutLast_append endsLine tiles with ⟨dropped, whole⟩
  refine ⟨ends, withoutLast endsLine tiles, dropped, ends.isEmpty, ?_, ?_,
    code_of_stops newlines stops⟩
  · rw [← whole]
  · rw [whole] at stops
    exact stops.of_append

theorem endsLine_trimmed (tile : Tile) : tile.trimmed.endsLine = tile.endsLine := by
  rw [endsLine, endsLine, trimmed_lexeme]

theorem trimmed_trimmed (tile : Tile) : tile.trimmed.trimmed = tile.trimmed := by
  by_cases newline : tile.lexeme.kind = .newline
  · rw [trimmed_of_newline newline, trimmed_of_gapless]
  · rw [trimmed_of_ne newline, trimmed_of_ne newline]

theorem map_trimmed_code (content : List Tile) : (code content).map trimmed = code content := by
  rw [code, List.map_map]
  apply List.map_congr_left
  intro tile _
  exact trimmed_trimmed tile

theorem stops_code (content : List Tile) : Lexeme.Stops endsLine (code content) := by
  rcases exists_kept content with ⟨front, kept, back, sharesLine, _, stops, same⟩
  rw [same]
  cases kept with
  | nil => cases sharesLine <;> exact Lexeme.stops_nil _
  | cons first rest =>
    have outside := Lexeme.stops_cons.mp stops
    cases sharesLine with
    | false => exact Lexeme.stops_cons.mpr ((endsLine_trimmed first).trans outside)
    | true => exact Lexeme.stops_cons.mpr ((endsLine_trimmed ⟨[], first.lexeme⟩).trans outside)

/-- A written segment has the code of the segment. -/
theorem code_behindTag (content : List Tile) : code (behindTag content) = code content := by
  have stops := stops_code content
  have same := map_trimmed_code content
  rw [behindTag]
  cases tiles : code content with
  | nil => rfl
  | cons first rest =>
    rw [tiles] at stops same
    have newlines : ∀ tile ∈ [lineFeed], tile.endsLine = true := by
      intro tile listed
      rw [List.mem_singleton.mp listed]
      rfl
    have outside : Lexeme.Stops endsLine (first :: rest ++ [lineFeed]) :=
      Lexeme.stops_cons.mpr (Lexeme.stops_cons.mp stops)
    have cut := code_of_stops newlines outside
    rw [withoutLast_append_singleton, if_pos (newlines _ List.mem_cons_self)] at cut
    exact cut.trans same

/-- The tiles of a written segment stand in front of anything. -/
theorem tiling_behindTag {content : List Tile} {original : List Char}
    (tiling : Tiling content original)
    (closed : ∀ tile ∈ content, ¬Lexeme.Unclosed tile.lexeme) (after : List Char) :
    Tiling (behindTag content) after := by
  rcases exists_kept content with ⟨front, kept, back, sharesLine, parts, _, same⟩
  rw [parts] at tiling
  have keptTiling := (tiling_append.mp (tiling_append.mp tiling).2).1
  have keptClosed : ∀ tile ∈ kept, ¬Lexeme.Unclosed tile.lexeme := by
    intro tile listed
    apply closed
    rw [parts]
    exact List.mem_append_right _ (List.mem_append_left _ listed)
  have lineEnds : Tiling kept ('\n' :: after) :=
    tiling_replace_of keptTiling (Lexeme.Continues.newline _ after) fun tile listed unclosed =>
      absurd unclosed (keptClosed tile listed)
  have codeTiling : Tiling (code content) ('\n' :: after) := by
    rw [same]
    exact tiling_trimmed (tiling_withoutFirstGap lineEnds sharesLine)
      (Lexeme.MayFollow.newline (List.cons_ne_nil _ _) after)
  exact ⟨blank_nil, .newline, tiling_append.mpr ⟨codeTiling, blank_nil, .newline, trivial⟩⟩

/-! ## What a written segment spells -/

theorem spelling_behindTag (content : List Tile) :
    spelling (behindTag content) = '\n' :: (spelling (code content) ++ ['\n']) := by
  simp [behindTag, lineFeed]

theorem spelling_map_trimmed_sublist (tiles : List Tile) :
    (spelling (tiles.map trimmed)).Sublist (spelling tiles) := by
  induction tiles with
  | nil => exact List.Sublist.refl _
  | cons tile rest inductionHypothesis =>
    rw [List.map_cons, spelling_cons, spelling_cons, trimmed_lexeme]
    apply List.Sublist.append _ (inductionHypothesis.append_left _)
    unfold trimmed
    split
    · exact List.nil_sublist _
    · exact List.Sublist.refl _

theorem spelling_withoutFirstGap_sublist (sharesLine : Bool) (tiles : List Tile) :
    (spelling (withoutFirstGap sharesLine tiles)).Sublist (spelling tiles) := by
  cases sharesLine with
  | false => exact List.Sublist.refl _
  | true =>
    cases tiles with
    | nil => exact List.Sublist.refl _
    | cons first rest =>
      rw [spelling_cons]
      exact List.sublist_append_right first.gap _

/-- The code is spelled with some of the characters of the content. -/
theorem spelling_code_sublist (content : List Tile) :
    (spelling (code content)).Sublist (spelling content) := by
  rcases exists_kept content with ⟨front, kept, back, sharesLine, parts, _, same⟩
  have whole : spelling content = spelling front ++ (spelling kept ++ spelling back) := by
    rw [parts, spelling_append, spelling_append]
  rw [whole, same]
  apply (spelling_map_trimmed_sublist _).trans
  apply (spelling_withoutFirstGap_sublist sharesLine kept).trans
  exact (List.sublist_append_left _ _).trans (List.sublist_append_right _ _)

theorem map_lexeme_withoutFirstGap (sharesLine : Bool) (tiles : List Tile) :
    (withoutFirstGap sharesLine tiles).map lexeme = tiles.map lexeme := by
  cases sharesLine with
  | false => rfl
  | true => cases tiles <;> rfl

/-- The lexemes of the code are some of the content's. -/
theorem map_lexeme_code_sublist (content : List Tile) :
    ((code content).map lexeme).Sublist (content.map lexeme) := by
  rcases exists_kept content with ⟨front, kept, back, sharesLine, parts, _, same⟩
  have whole : content.map lexeme = front.map lexeme ++ (kept.map lexeme ++ back.map lexeme) := by
    rw [parts, List.map_append, List.map_append]
  have lexemes : (code content).map lexeme = kept.map lexeme := by
    rw [same, List.map_map, ← map_lexeme_withoutFirstGap sharesLine kept]
    apply List.map_congr_left
    intro tile _
    exact trimmed_lexeme tile
  rw [whole, lexemes]
  exact (List.sublist_append_left _ _).trans (List.sublist_append_right _ _)

/-- No tag is written behind the tag. -/
theorem unopened_behindTag {content : List Tile}
    (unopened : ∀ tile ∈ content, tile.lexeme.kind.opensBlock = false) :
    ∀ tile ∈ behindTag content, tile.lexeme.kind.opensBlock = false := by
  intro tile listed
  rcases List.mem_cons.mp listed with rfl | later
  · rfl
  · rcases List.mem_append.mp later with inCode | isLast
    · have found := (map_lexeme_code_sublist content).subset (List.mem_map_of_mem inCode)
      rcases List.mem_map.mp found with ⟨original, inContent, same⟩
      rw [← same]
      exact unopened original inContent
    · rw [List.mem_singleton.mp isLast]
      rfl

end Tile

namespace Segment

/-! ## The body of a written segment -/

/-- The segment of a tag that stands where a source begins, and of the tiles behind it. -/
def opening (tag : Lexeme) (content : List Tile) : Segment :=
  ⟨Token.ofLexeme Source.Position.start tag,
    Tile.tokens (Source.Position.start.after tag.raw) content⟩

/-- A written segment has the body that was written. -/
theorem toList_body_opening {tag : Lexeme} (oneLine : '\n' ∉ tag.raw) {content : List Tile}
    {original : List Char} (tiling : Tile.Tiling content original)
    (closed : ∀ tile ∈ content, ¬Lexeme.Unclosed tile.lexeme)
    (few : (Tile.spelling content).count '\n' + 1 < UInt32.size) :
    ((opening tag (Tile.behindTag content)).body .source
      (tag.raw ++ Tile.spelling (Tile.behindTag content))).toList =
        Tile.spelling (Tile.code content) := by
  have begins : Line.Begins true 1 tag.raw := by
    constructor
    · intro _
      exact Source.Position.line_after_of_oneLine _ oneLine
    · intro impossible
      cases impossible
  have kept : withoutLast Tile.endsLine (Tile.behindTag content) =
      Tile.lineFeed :: Tile.code content := by
    rw [Tile.behindTag, ← List.cons_append, withoutLast_append_singleton]
    exact if_pos rfl
  have fewer := (Tile.spelling_code_sublist content).count_le '\n'
  have near : (Tile.spelling (withoutLast Tile.endsLine (Tile.behindTag content))).count '\n' <
      UInt32.size := by
    have feed : Tile.spelling (Tile.lineFeed :: Tile.code content) =
        '\n' :: Tile.spelling (Tile.code content) := rfl
    rw [kept, feed, List.count_cons_self]
    omega
  have parts : tag.raw ++ Tile.spelling (Tile.behindTag content) =
      tag.raw ++ (Tile.spelling (Tile.behindTag content) ++ []) := by simp
  have tagged : (opening tag (Tile.behindTag content)).tag.location.line = UInt32.ofNat 1 := rfl
  have written := written_of_tiling parts begins tagged near
    (Tile.tiling_behindTag tiling closed []) rfl
  rw [Tile.code_behindTag] at written
  exact written.text

end Segment
end Ritual
