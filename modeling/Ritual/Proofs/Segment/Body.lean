import Ritual.Proofs.Line.Cut
import Ritual.Segment

namespace Ritual

/-!
# The body of a block

The tokens of a segment that are its code are its content without the line ends
right behind the tag and without one line end at the end.  If the content tiles a
part of the source, then the body spells the tiles of the code: its lines are cut
out one by one, and the line feeds between them are put back.
-/

/-! ## Lists without their last item -/

/-- A list without its last item, if that is to be dropped. -/
def withoutLast {Item : Type} (drops : Item → Bool) (items : List Item) : List Item :=
  match items.getLast? with
  | some last => if drops last then items.dropLast else items
  | none => items

section WithoutLast

variable {Item : Type} {drops : Item → Bool}

theorem withoutLast_append_singleton (front : List Item) (last : Item) :
    withoutLast drops (front ++ [last]) = if drops last then front else front ++ [last] := by
  simp [withoutLast]

theorem withoutLast_append (front : List Item) {rest : List Item} (nonempty : rest ≠ []) :
    withoutLast drops (front ++ rest) = front ++ withoutLast drops rest := by
  rcases List.eq_nil_or_concat rest with rfl | ⟨initial, last, rfl⟩
  · exact absurd rfl nonempty
  · rw [List.concat_eq_append, ← List.append_assoc, withoutLast_append_singleton,
      withoutLast_append_singleton]
    split
    · rfl
    · rw [List.append_assoc]

theorem withoutLast_of_none {items : List Item} (kept : ∀ item ∈ items, drops item = false) :
    withoutLast drops items = items := by
  rcases List.eq_nil_or_concat items with rfl | ⟨initial, last, rfl⟩
  · rfl
  · rw [List.concat_eq_append] at kept ⊢
    rw [withoutLast_append_singleton, if_neg]
    simp [kept last (by simp)]

theorem exists_withoutLast_append (drops : Item → Bool) (items : List Item) :
    ∃ dropped, items = withoutLast drops items ++ dropped := by
  rcases List.eq_nil_or_concat items with rfl | ⟨initial, last, rfl⟩
  · exact ⟨[], rfl⟩
  · rw [List.concat_eq_append, withoutLast_append_singleton]
    split
    · exact ⟨[last], rfl⟩
    · exact ⟨[], (List.append_nil _).symm⟩

end WithoutLast

namespace Segment

/-- The tokens of a segment that are its code. -/
def code (segment : Segment) : List Token :=
  withoutLast Line.endsLine (segment.content.dropWhile Line.endsLine)

theorem mem_content_of_mem_code {segment : Segment} {token : Token}
    (listed : token ∈ segment.code) : token ∈ segment.content := by
  rcases exists_withoutLast_append Line.endsLine (segment.content.dropWhile Line.endsLine) with
    ⟨dropped, whole⟩
  apply (List.dropWhile_sublist Line.endsLine).subset
  rw [whole]
  exact List.mem_append_left dropped listed

end Segment

namespace Tile

/-! ## Tiles that end a line -/

/-- Whether a tile ends a line. -/
def endsLine (tile : Tile) : Bool :=
  tile.lexeme.kind == .newline

theorem endsLine_ofLexeme (position : Source.Position) (tile : Tile) :
    Line.endsLine (Token.ofLexeme position tile.lexeme) = tile.endsLine := rfl

theorem trimmed_of_gapless (lexeme : Lexeme) : trimmed ⟨[], lexeme⟩ = ⟨[], lexeme⟩ := by
  unfold trimmed
  split <;> rfl

theorem map_trimmed_of_unbroken {tiles : List Tile}
    (unbroken : ∀ tile ∈ tiles, tile.endsLine = false) : tiles.map trimmed = tiles := by
  apply (List.map_congr_left ?_).trans (List.map_id tiles)
  intro tile listed
  have different : tile.lexeme.kind ≠ .newline := by
    simpa [endsLine] using unbroken tile listed
  exact trimmed_of_ne different

theorem map_trimmed_withoutFirstGap {line : List Tile}
    (unbroken : ∀ tile ∈ line, tile.endsLine = false) (sharesLine : Bool) :
    (withoutFirstGap sharesLine line).map trimmed = withoutFirstGap sharesLine line := by
  have lineTrimmed := map_trimmed_of_unbroken unbroken
  cases sharesLine with
  | false => exact lineTrimmed
  | true =>
    cases line with
    | nil => rfl
    | cons first others =>
      simp only [withoutFirstGap, List.map_cons]
      rw [trimmed_of_gapless, (List.cons.inj lineTrimmed).2]

theorem map_trimmed_line {line : List Tile} (unbroken : ∀ tile ∈ line, tile.endsLine = false)
    {newline : Tile} (ends : newline.lexeme.kind = .newline) (rest : List Tile)
    (sharesLine : Bool) :
    (withoutFirstGap sharesLine (line ++ newline :: rest)).map trimmed =
      withoutFirstGap sharesLine line ++ ⟨[], newline.lexeme⟩ :: rest.map trimmed := by
  have lineTrimmed := map_trimmed_withoutFirstGap unbroken sharesLine
  have newlineTrimmed := trimmed_of_newline ends
  cases line with
  | nil =>
    cases sharesLine with
    | false => exact congrArg (· :: rest.map trimmed) newlineTrimmed
    | true => exact congrArg (· :: rest.map trimmed) (trimmed_of_gapless newline.lexeme)
  | cons first others =>
    have apart : withoutFirstGap sharesLine (first :: others ++ newline :: rest) =
        withoutFirstGap sharesLine (first :: others) ++ newline :: rest := by
      cases sharesLine <;> rfl
    rw [apart, List.map_append, lineTrimmed, List.map_cons, newlineTrimmed]

theorem tokens_dropWhile_of_stops {run rest : List Tile} (ends : ∀ tile ∈ run, tile.endsLine = true)
    (stops : Lexeme.Stops endsLine rest) (position : Source.Position) :
    (tokens position (run ++ rest)).dropWhile Line.endsLine =
      tokens (position.after (spelling run)) rest := by
  rw [tokens_append]
  exact Lexeme.dropWhile_of_stops (kind_tokens (· == .newline) ends position)
    (stops_tokens (· == .newline) stops _)

theorem withoutLast_tokens (position : Source.Position) (tiles : List Tile) :
    withoutLast Line.endsLine (tokens position tiles) =
      tokens position (withoutLast endsLine tiles) := by
  rcases List.eq_nil_or_concat tiles with rfl | ⟨initial, last, rfl⟩
  · rfl
  · have single : tokens (position.after (spelling initial)) [last] =
        [Token.ofLexeme ((position.after (spelling initial)).after last.gap) last.lexeme] := rfl
    rw [List.concat_eq_append, tokens_append, single, withoutLast_append_singleton,
      withoutLast_append_singleton, endsLine_ofLexeme]
    split
    · rfl
    · rw [tokens_append, single]

/-- The tokens of a line, of its end and of what follows. -/
theorem tokens_line {newline : Tile} (raw : newline.lexeme.raw = ['\n']) (left : List Char)
    (line others : List Tile) :
    tokens (Source.Position.start.after left) (line ++ newline :: others) =
      tokens (Source.Position.start.after left) line ++
        Token.ofLexeme (Source.Position.start.after (left ++ (spelling line ++ newline.gap)))
          newline.lexeme ::
        tokens (Source.Position.start.after (left ++ (spelling line ++ newline.gap ++ ['\n'])))
          others := by
  rw [tokens_append, tokens_cons, raw]
  simp only [Source.Position.after_append]

end Tile

namespace Line

/-! ## Writing out lines -/

/-- Whether a line can be cut from the source, so that it is not joined. -/
def IsCut (source : List Char) (tag : Token) (line : List Token) : Prop :=
  ∀ nonempty : line ≠ [], (cut? source tag (line.head nonempty) (line.getLast nonempty)).isSome

theorem render_of_cut? {source : List Char} {tag : Token} {line : List Token}
    (nonempty : line ≠ []) {text : String}
    (found : cut? source tag (line.head nonempty) (line.getLast nonempty) = some text) :
    render .source source tag line = text := by
  cases line with
  | nil => exact absurd rfl nonempty
  | cons first rest =>
    rw [List.head_cons] at found
    simp only [render, found]

/-- The lines of some tokens are cut from the source, and this is what they are
written as. -/
structure Written (source : List Char) (tag : Token) (tokens : List Token) (text : List Char) :
    Prop where
  isCut : ∀ line ∈ ofTokens tokens, IsCut source tag line
  text : ("\n".intercalate ((ofTokens tokens).map (render .source source tag))).toList = text

namespace Written

variable {source text later : List Char} {tag newline : Token} {line rest : List Token}

theorem nil (source : List Char) (tag : Token) : Written source tag [] [] where
  isCut := by
    intro other impossible
    cases impossible
  text := rfl

theorem unended (unbroken : ∀ token ∈ line, endsLine token = false) (nonempty : line ≠ [])
    (isCut : IsCut source tag line)
    (written : render .source source tag line = String.ofList text) :
    Written source tag line text where
  isCut := by
    rw [ofTokens_unbroken unbroken nonempty]
    intro other listed
    rw [List.mem_singleton.mp listed]
    exact isCut
  text := by
    rw [ofTokens_unbroken unbroken nonempty, List.map_singleton, String.intercalate_singleton,
      written, String.toList_ofList]

theorem ended (unbroken : ∀ token ∈ line, endsLine token = false)
    (ends : newline.kind = .newline) (isCut : IsCut source tag line)
    (written : render .source source tag line = String.ofList text) :
    Written source tag (line ++ [newline]) text where
  isCut := by
    rw [ofTokens_append_newline unbroken ends, ofTokens]
    intro other listed
    rw [List.mem_singleton.mp listed]
    exact isCut
  text := by
    rw [ofTokens_append_newline unbroken ends, ofTokens, List.map_singleton,
      String.intercalate_singleton, written, String.toList_ofList]

/-- A line, a line feed and the lines behind it. -/
theorem before (behind : Written source tag rest later) (nonempty : rest ≠ [])
    (unbroken : ∀ token ∈ line, endsLine token = false) (ends : newline.kind = .newline)
    (isCut : IsCut source tag line)
    (written : render .source source tag line = String.ofList text) :
    Written source tag (line ++ newline :: rest) (text ++ '\n' :: later) where
  isCut := by
    rw [ofTokens_append_newline unbroken ends]
    intro other listed
    rcases List.mem_cons.mp listed with rfl | inRest
    · exact isCut
    · exact behind.isCut other inRest
  text := by
    have several : (ofTokens rest).map (render .source source tag) ≠ [] := by
      simpa using ofTokens_ne_nil nonempty
    rw [ofTokens_append_newline unbroken ends, List.map_cons,
      String.intercalate_cons_of_ne_nil several, String.toList_append, String.toList_append,
      written, behind.text, String.toList_ofList]
    simp

end Written

variable {sharesLine : Bool} {tagLine : Nat} {tag : Token} {left after : List Char}

/-- A line of tiles is cut out, and is written as its tiles are spelled. -/
theorem render_tokens {line : List Tile} (begins : Begins sharesLine tagLine left)
    (tagged : tag.location.line = UInt32.ofNat tagLine)
    (near : (Source.Position.start.after left).line < tagLine + UInt32.size)
    (tiling : Tile.Tiling line after) :
    IsCut (left ++ (Tile.spelling line ++ after)) tag
        (Tile.tokens (Source.Position.start.after left) line) ∧
      render .source (left ++ (Tile.spelling line ++ after)) tag
          (Tile.tokens (Source.Position.start.after left) line) =
        String.ofList (Tile.spelling (Tile.withoutFirstGap sharesLine line)) := by
  cases line with
  | nil =>
    refine ⟨fun nonempty => absurd rfl nonempty, ?_⟩
    cases sharesLine <;> rfl
  | cons first others =>
    have nonempty : Tile.tokens (Source.Position.start.after left) (first :: others) ≠ [] := by
      simp
    have found := cut?_tokens begins tagged near tiling.1 nonempty after
    exact ⟨fun _ => by rw [found]; rfl, render_of_cut? nonempty found⟩

theorem line_after_newline (left chars : List Char) :
    (Source.Position.start.after (left ++ (chars ++ ['\n']))).line =
      (Source.Position.start.after left).line + chars.count '\n' + 1 := by
  rw [Source.Position.after_append, Source.Position.line_after, List.count_append,
    List.count_singleton_self, Nat.add_assoc]

/-- Behind a line end a line of the source begins. -/
theorem Begins.newline (begins : Begins sharesLine tagLine left) (chars : List Char) :
    Begins false tagLine (left ++ (chars ++ ['\n'])) where
  shared := by
    intro impossible
    cases impossible
  own := by
    intro _
    refine ⟨?_, ?_⟩
    · intro last found
      rw [← List.append_assoc, List.getLast?_concat] at found
      exact (Option.some.inj found).symm
    · have line := begins.tagLine_le
      rw [line_after_newline]
      omega

/-- The lines of tiles are cut out, and the body spells the tiles without a last
line end and without the blanks at the ends of lines. -/
theorem render_lines {sharesLine : Bool} {tagLine : Nat} {tag : Token} {left after : List Char}
    {tiles : List Tile} {source : List Char} (parts : source = left ++ (Tile.spelling tiles ++ after))
    (begins : Begins sharesLine tagLine left)
    (tagged : tag.location.line = UInt32.ofNat tagLine)
    (near : (Source.Position.start.after left).line +
      (Tile.spelling (withoutLast Tile.endsLine tiles)).count '\n' < tagLine + UInt32.size)
    (tiling : Tile.Tiling tiles after) :
    Written source tag (Tile.tokens (Source.Position.start.after left) tiles)
      (Tile.spelling ((Tile.withoutFirstGap sharesLine
        (withoutLast Tile.endsLine tiles)).map Tile.trimmed)) := by
  -- one line after the other, each of which begins where the one before it ended
  rcases Lexeme.exists_run (fun tile => !tile.endsLine) tiles with ⟨line, rest, rfl, inside, stops⟩
  have unbroken : ∀ tile ∈ line, tile.endsLine = false := by simpa using inside
  have lineTokens := Tile.kind_tokens (· == .newline) unbroken
    (Source.Position.start.after left)
  have lineTiling := (Tile.tiling_append.mp tiling).1
  have lineParts : source = left ++ (Tile.spelling line ++ (Tile.spelling rest ++ after)) := by
    rw [parts, Tile.spelling_append, List.append_assoc]
  have rendered := render_tokens begins tagged (Nat.lt_of_le_of_lt (Nat.le_add_right _ _) near)
    lineTiling
  rw [← lineParts] at rendered
  rcases rendered with ⟨isCut, written⟩
  cases rest with
  | nil =>
    rw [List.append_nil, withoutLast_of_none unbroken,
      Tile.map_trimmed_withoutFirstGap unbroken]
    cases line with
    | nil => cases sharesLine <;> exact .nil source tag
    | cons first others => exact .unended lineTokens (by simp) isCut written
  | cons newline others =>
    have ends : newline.lexeme.kind = .newline := by
      simpa [Tile.endsLine] using Lexeme.stops_cons.mp stops
    rcases (Tile.tiling_append.mp tiling).2 with ⟨_, stands, othersTiling⟩
    have raw := stands.raw_of_newline ends
    rw [Tile.tokens_line raw]
    cases others with
    | nil =>
      have dropped : withoutLast Tile.endsLine (line ++ [newline]) = line := by
        rw [withoutLast_append_singleton, if_pos (by simp [Tile.endsLine, ends])]
      rw [dropped, Tile.map_trimmed_withoutFirstGap unbroken]
      exact .ended lineTokens ends isCut written
    | cons next following =>
      have kept : withoutLast Tile.endsLine (line ++ newline :: next :: following) =
          line ++ newline :: withoutLast Tile.endsLine (next :: following) := by
        rw [withoutLast_append line (List.cons_ne_nil _ _)]
        exact congrArg (line ++ ·) (withoutLast_append [newline] (List.cons_ne_nil _ _))
      -- the lines behind the line end begin lines of the source, so they keep their indentation
      have othersParts : source = left ++ (Tile.spelling line ++ newline.gap ++ ['\n']) ++
          (Tile.spelling (next :: following) ++ after) := by
        rw [parts, Tile.spelling_append, Tile.spelling_cons newline, raw]
        simp
      have othersNear : (Source.Position.start.after
            (left ++ (Tile.spelling line ++ newline.gap ++ ['\n']))).line +
          (Tile.spelling (withoutLast Tile.endsLine (next :: following))).count '\n' <
            tagLine + UInt32.size := by
        rw [kept, Tile.spelling_append, Tile.spelling_cons, raw] at near
        simp only [List.count_append, List.count_singleton_self] at near
        rw [line_after_newline, List.count_append]
        omega
      have behind := render_lines othersParts
        (begins.newline (Tile.spelling line ++ newline.gap)) tagged othersNear othersTiling
      rw [kept, Tile.map_trimmed_line unbroken ends, Tile.spelling_append, Tile.spelling_cons, raw]
      exact behind.before (by simp) lineTokens ends isCut written
termination_by tiles.length

end Line

namespace Tile

/-- The tiles of a segment's body: those behind the line ends right behind the tag, without
one line end at the end, without the gap behind the tag and without the blanks at the ends of
lines. -/
def code (content : List Tile) : List Tile :=
  (withoutFirstGap (content.takeWhile endsLine).isEmpty
    (withoutLast endsLine (content.dropWhile endsLine))).map trimmed

theorem code_of_stops {ends tiles : List Tile} (newlines : ∀ tile ∈ ends, tile.endsLine = true)
    (stops : Lexeme.Stops endsLine tiles) :
    code (ends ++ tiles) =
      (withoutFirstGap ends.isEmpty (withoutLast endsLine tiles)).map trimmed := by
  rw [code, Lexeme.takeWhile_of_stops newlines stops, Lexeme.dropWhile_of_stops newlines stops]

end Tile

namespace Segment

/-- Behind some line ends it begins a line. -/
theorem begins_behind_ends {tagLine : Nat} {left : List Char}
    (begins : Line.Begins true tagLine left) {ends : List Tile} {after : List Char}
    (tiling : Tile.Tiling ends after) (newlines : ∀ tile ∈ ends, tile.endsLine = true) :
    Line.Begins ends.isEmpty tagLine (left ++ Tile.spelling ends) := by
  rcases List.eq_nil_or_concat ends with rfl | ⟨others, newline, rfl⟩
  · simpa using begins
  · rw [List.concat_eq_append] at *
    rcases (Tile.tiling_append.mp tiling).2 with ⟨_, stands, _⟩
    have ends : newline.lexeme.kind = .newline := by
      simpa [Tile.endsLine] using newlines newline (by simp)
    have spelled : Tile.spelling (others ++ [newline]) =
        Tile.spelling others ++ newline.gap ++ ['\n'] := by
      simp [stands.raw_of_newline ends]
    have several : (others ++ [newline]).isEmpty = false := by simp
    rw [several, spelled]
    exact begins.newline _

/-- The body of a segment whose content tiles a part of the source spells the code, if the
lines of the code are so few that no two of them are reported with one number. -/
theorem written_of_tiling {source : List Char} {segment : Segment} {tagLine : Nat}
    {left after : List Char} {content : List Tile}
    (parts : source = left ++ (Tile.spelling content ++ after))
    (begins : Line.Begins true tagLine left)
    (tagged : segment.tag.location.line = UInt32.ofNat tagLine)
    (near : (Tile.spelling (withoutLast Tile.endsLine content)).count '\n' < UInt32.size)
    (tiling : Tile.Tiling content after)
    (tokens : segment.content = Tile.tokens (Source.Position.start.after left) content) :
    Line.Written source segment.tag (segment.content.dropWhile Line.endsLine)
      (Tile.spelling (Tile.code content)) := by
  rcases Lexeme.exists_run Tile.endsLine content with ⟨ends, tiles, rfl, newlines, stops⟩
  rcases Tile.tiling_append.mp tiling with ⟨endsTiling, tilesTiling⟩
  rw [tokens, Tile.tokens_dropWhile_of_stops newlines stops, ← Source.Position.after_append,
    Tile.code_of_stops newlines stops]
  cases tiles with
  | nil =>
    have nothing : Tile.withoutFirstGap ends.isEmpty (withoutLast Tile.endsLine []) = [] := by
      cases ends.isEmpty <;> rfl
    rw [nothing]
    exact .nil source segment.tag
  | cons first others =>
    have tilesParts : source = left ++ Tile.spelling ends ++
        (Tile.spelling (first :: others) ++ after) := by
      rw [parts, Tile.spelling_append, List.append_assoc, List.append_assoc]
    have tilesNear : (Source.Position.start.after (left ++ Tile.spelling ends)).line +
        (Tile.spelling (withoutLast Tile.endsLine (first :: others))).count '\n' <
          tagLine + UInt32.size := by
      rw [withoutLast_append ends (List.cons_ne_nil _ _), Tile.spelling_append,
        List.count_append] at near
      rw [Source.Position.after_append, Source.Position.line_after, begins.shared rfl]
      omega
    exact Line.render_lines tilesParts (begins_behind_ends begins endsTiling newlines) tagged
      tilesNear tilesTiling

end Segment
end Ritual
