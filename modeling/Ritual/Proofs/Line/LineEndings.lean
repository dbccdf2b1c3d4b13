import Ritual.Proofs.Segment.Rendered
import Ritual.Proofs.Token.Coverage
import Ritual.Proofs.Token.LineEndings

namespace Ritual

/-!
# Lines of a source with returns

A line is cut behind its last token, so a return that is a blank is cut off, and a return
that a comment took is kept.  A comment takes one unless the source ends with the comment.
No other lexeme between two tags takes a return.
-/

namespace Line

/-! ## One line -/

/-- Whether the last token of a line is a comment, with something of the source behind it. -/
def endsInComment (source : List Char) (line : List Token) : Bool :=
  line.getLast?.any fun last =>
    last.kind.isComment && decide (last.span.stop < Source.byteLength source)

/-- A line of a source, and the same line of the source with its returns. -/
structure Returned (source again : List Char) (tag tagAgain : Token)
    (line lineAgain : List Token) : Prop where
  text : render .source again tagAgain lineAgain =
    render .source source tag line ++ if endsInComment source line then "\r" else ""
  noReturn : '\r' ∉ (render .source source tag line).toList

namespace Returned

variable {source again : List Char} {tag tagAgain : Token} {line lineAgain : List Token}

theorem filter_text (related : Returned source again tag tagAgain line lineAgain) :
    (render .source again tagAgain lineAgain).toList.filter (· != '\r') =
      (render .source source tag line).toList := by
  have kept := (Source.filter_return_eq_self _).mpr related.noReturn
  rw [related.text, String.toList_append, List.filter_append, kept]
  split <;> simp

theorem not_mem_text (related : Returned source again tag tagAgain line lineAgain) :
    '\r' ∉ (render .source again tagAgain lineAgain).toList ↔
      endsInComment source line = false := by
  rw [related.text, String.toList_append, List.mem_append, or_iff_right related.noReturn]
  split <;> simp_all

end Returned

/-- What a line of tiles is written as, with what stands before them on the line. -/
def runText (tag : Token) (left front : List Char) (line : List Tile) : List Char :=
  if (Source.Position.start.after left).location.line = tag.location.line then
    Tile.spelling (Tile.withoutFirstGap true line)
  else front ++ Tile.spelling line

theorem render_run {tag : Token} {left whole front : List Char} {line : List Tile}
    (parts : left = whole ++ front) (ended : ∀ char ∈ whole.getLast?, char = '\n')
    (oneLine : '\n' ∉ front ++ Tile.spelling line) (nonempty : line ≠ []) (after : List Char) :
    render .source (left ++ (Tile.spelling line ++ after)) tag
        (Tile.tokens (Source.Position.start.after left) line) =
      String.ofList (runText tag left front line) := by
  cases line with
  | nil => exact absurd rfl nonempty
  | cons first others =>
    have inLine : '\n' ∉ front ++ first.gap := by
      intro listed
      apply oneLine
      rcases List.mem_append.mp listed with inFront | inGap
      · exact List.mem_append_left _ inFront
      · exact List.mem_append_right _ (List.mem_append_left _ (List.mem_append_left _ inGap))
    have several : Tile.tokens (Source.Position.start.after left) (first :: others) ≠ [] := by
      simp
    have gapOneLine : '\n' ∉ first.gap := fun listed => inLine (List.mem_append_right _ listed)
    have sameLine : (Source.Position.start.after (left ++ first.gap)).location.line =
        (Source.Position.start.after left).location.line := by
      rw [Source.Position.after_append]
      exact congrArg UInt32.ofNat (Source.Position.line_after_of_oneLine _ gapOneLine)
    apply render_of_cut? several
    rw [cut?_run parts ended inLine several after, sameLine]
    rfl

theorem runText_withReturns {tag tagAgain : Token} (place : tagAgain.location = tag.location)
    (left front : List Char) (line : List Tile) :
    runText tagAgain (Source.withReturns left) front line = runText tag left front line := by
  rw [runText, runText, Source.Position.location_after_withReturns, place]

/-- A return that the last lexeme of a line took is written at the end of the line. -/
theorem runText_took (tag : Token) (left front : List Char) (others : List Tile) (tile : Tile) :
    runText tag left front (others ++ [⟨tile.gap, tile.lexeme.withReturn⟩]) =
      runText tag left front (others ++ [tile]) ++ ['\r'] := by
  unfold runText
  split
  · cases others with
    | nil => simp [Tile.withoutFirstGap]
    | cons first rest => simp [Tile.withoutFirstGap]
  · simp

theorem runText_sublist (tag : Token) (left front : List Char) (line : List Tile) :
    (runText tag left front line).Sublist (front ++ Tile.spelling line) := by
  unfold runText
  split
  · exact (Tile.spelling_withoutFirstGap_sublist true line).trans (List.sublist_append_right _ _)
  · exact List.Sublist.refl _

theorem endsInComment_run (left : List Char) (others : List Tile) (tile : Tile)
    (after : List Char) :
    endsInComment (left ++ (Tile.spelling (others ++ [tile]) ++ after))
        (Tile.tokens (Source.Position.start.after left) (others ++ [tile])) =
      (tile.lexeme.kind.isComment && !after.isEmpty) := by
  have single : Tile.tokens (Source.Position.start.after (left ++ Tile.spelling others)) [tile] =
      [Token.ofLexeme (Source.Position.start.after (left ++ (Tile.spelling others ++ tile.gap)))
        tile.lexeme] := by
    rw [← List.append_assoc, Source.Position.after_append _ _ tile.gap]
    rfl
  have behind : decide (Source.byteLength (left ++ Tile.spelling (others ++ [tile])) <
      Source.byteLength (left ++ (Tile.spelling (others ++ [tile]) ++ after))) =
        !after.isEmpty := by
    rw [← List.append_assoc, Source.byteLength_append]
    cases after with
    | nil => simp
    | cons char rest => simp [Source.byteLength_pos]
  have stop : Source.byteLength (left ++ (Tile.spelling others ++ tile.gap)) +
      Source.byteLength tile.lexeme.raw =
        Source.byteLength (left ++ Tile.spelling (others ++ [tile])) := by
    simp [Nat.add_assoc]
  rw [endsInComment, Tile.tokens_append, ← Source.Position.after_append, single,
    List.getLast?_concat, Option.any_some, Tile.span_ofLexeme, stop, behind]
  rfl

variable {source again left after afterAgain : List Char} {tag tagAgain : Token}

/-- A line is written with its return as it is without it, and the return at its end. -/
theorem returned_of_run {line lineAgain : List Tile} {suffix : List Char}
    (place : tagAgain.location = tag.location) (noReturn : '\r' ∉ source)
    (parts : source = left ++ (Tile.spelling line ++ after))
    (againParts : again = Source.withReturns left ++ (Tile.spelling lineAgain ++ afterAgain))
    (oneLine : '\n' ∉ Tile.spelling line) (oneLineAgain : '\n' ∉ Tile.spelling lineAgain)
    (nonempty : line ≠ []) (nonemptyAgain : lineAgain ≠ [])
    (written : ∀ front, runText tag left front lineAgain = runText tag left front line ++ suffix)
    (ends : String.ofList suffix = if endsInComment source
      (Tile.tokens (Source.Position.start.after left) line) then "\r" else "") :
    Returned source again tag tagAgain (Tile.tokens (Source.Position.start.after left) line)
      (Tile.tokens (Source.Position.start.after (Source.withReturns left)) lineAgain) := by
  rcases Source.exists_lines left with ⟨whole, front, split, frontLine, ended⟩
  have splitAgain : Source.withReturns left = Source.withReturns whole ++ front := by
    rw [split, Source.withReturns_append, Source.withReturns_of_oneLine frontLine]
  have text : render .source source tag (Tile.tokens (Source.Position.start.after left) line) =
      String.ofList (runText tag left front line) := by
    rw [parts]
    exact render_run split ended (by simp [frontLine, oneLine]) nonempty after
  have textAgain : render .source again tagAgain
      (Tile.tokens (Source.Position.start.after (Source.withReturns left)) lineAgain) =
        String.ofList (runText tag left front lineAgain) := by
    rw [againParts, render_run splitAgain (Source.withReturns_ended ended)
      (by simp [frontLine, oneLineAgain]) nonemptyAgain afterAgain, runText_withReturns place]
  constructor
  · rw [textAgain, text, written, String.ofList_append, ends]
  · rw [text, String.toList_ofList]
    intro listed
    apply noReturn
    rw [parts, split]
    rcases List.mem_append.mp ((runText_sublist tag left front line).subset listed) with
      inFront | inLine
    · exact List.mem_append_left _ (List.mem_append_right _ inFront)
    · exact List.mem_append_right _ (List.mem_append_left _ inLine)

/-- A line whose last lexeme, if there is one, takes no return. -/
theorem returned_of_kept {line : List Tile} (place : tagAgain.location = tag.location)
    (noReturn : '\r' ∉ source) (parts : source = left ++ (Tile.spelling line ++ after))
    (againParts : again = Source.withReturns left ++ (Tile.spelling line ++ afterAgain))
    (oneLine : '\n' ∉ Tile.spelling line)
    (ended : ∀ last ∈ line.getLast?, last.lexeme.kind.isComment = true → after = []) :
    Returned source again tag tagAgain (Tile.tokens (Source.Position.start.after left) line)
      (Tile.tokens (Source.Position.start.after (Source.withReturns left)) line) := by
  rcases List.eq_nil_or_concat line with rfl | ⟨others, tile, rfl⟩
  · exact ⟨rfl, List.not_mem_nil⟩
  · rw [List.concat_eq_append] at *
    have noComment : (tile.lexeme.kind.isComment && !after.isEmpty) = false := by
      cases comment : tile.lexeme.kind.isComment with
      | false => rfl
      | true => simp [ended tile (by simp) comment]
    apply returned_of_run place noReturn parts againParts oneLine oneLine (by simp) (by simp)
      fun front => (List.append_nil _).symm
    rw [parts, endsInComment_run, noComment]
    rfl

/-- A line whose last lexeme is a comment that takes a return. -/
theorem returned_of_took {others : List Tile} {tile : Tile}
    (place : tagAgain.location = tag.location) (noReturn : '\r' ∉ source)
    (parts : source = left ++ (Tile.spelling (others ++ [tile]) ++ after))
    (againParts : again = Source.withReturns left ++
      (Tile.spelling (others ++ [⟨tile.gap, tile.lexeme.withReturn⟩]) ++ afterAgain))
    (oneLine : '\n' ∉ Tile.spelling (others ++ [tile])) (nonempty : after ≠ [])
    (comment : tile.lexeme.kind.isComment = true) :
    Returned source again tag tagAgain
      (Tile.tokens (Source.Position.start.after left) (others ++ [tile]))
      (Tile.tokens (Source.Position.start.after (Source.withReturns left))
        (others ++ [⟨tile.gap, tile.lexeme.withReturn⟩])) := by
  have spelled : Tile.spelling (others ++ [⟨tile.gap, tile.lexeme.withReturn⟩]) =
      Tile.spelling (others ++ [tile]) ++ ['\r'] := by simp
  have oneLineAgain : '\n' ∉ Tile.spelling (others ++ [⟨tile.gap, tile.lexeme.withReturn⟩]) := by
    rw [spelled, List.mem_append, not_or]
    exact ⟨oneLine, by decide⟩
  apply returned_of_run place noReturn parts againParts oneLine oneLineAgain (by simp) (by simp)
    fun front => runText_took tag left front others tile
  rw [parts, endsInComment_run, comment]
  simp [nonempty]

/-! ## The lines of some tiles -/

/-- Tiles with which a line begins, and which take no return before the given characters. -/
structure Begun (front : List Tile) (after : List Char) : Prop where
  unbroken : ∀ tile ∈ front, tile.endsLine = false
  oneLine : '\n' ∉ Tile.spelling front
  ended : ∀ last ∈ front.getLast?, last.lexeme.kind.isComment = true → after = []

theorem begun_nil (after : List Char) : Begun [] after where
  unbroken := by
    intro tile impossible
    cases impossible
  oneLine := List.not_mem_nil
  ended := by
    intro last impossible
    cases impossible

theorem Begun.append {front : List Tile} {tile : Tile} {before after : List Char}
    (begun : Begun front before) (visible : tile.endsLine = false)
    (oneLine : '\n' ∉ tile.chars) (ended : tile.lexeme.kind.isComment = true → after = []) :
    Begun (front ++ [tile]) after where
  unbroken := by
    intro other listed
    rcases List.mem_append.mp listed with inFront | isLast
    · exact begun.unbroken other inFront
    · rw [List.mem_singleton.mp isLast]
      exact visible
  oneLine := by
    rw [Tile.spelling_append, List.mem_append, not_or]
    exact ⟨begun.oneLine, by simpa [Tile.chars] using oneLine⟩
  ended := by
    intro last found
    rw [List.getLast?_concat] at found
    obtain rfl := Option.some.inj found
    exact ended

/-- Behind a line that ends, and has or takes the return before its end, come the lines behind
it. -/
theorem returned_cons {line lineAgain rest restAgain : List Tile} {gap gapAgain : List Char}
    (head : Returned source again tag tagAgain
      (Tile.tokens (Source.Position.start.after left) line)
      (Tile.tokens (Source.Position.start.after (Source.withReturns left)) lineAgain))
    (unbroken : ∀ tile ∈ line, tile.endsLine = false)
    (unbrokenAgain : ∀ tile ∈ lineAgain, tile.endsLine = false)
    (same : Source.withReturns left ++ (Tile.spelling lineAgain ++ gapAgain ++ ['\n']) =
      Source.withReturns (left ++ (Tile.spelling line ++ gap ++ ['\n'])))
    (tail : List.Forall₂ (Returned source again tag tagAgain)
      (ofTokens (Tile.tokens (Source.Position.start.after
        (left ++ (Tile.spelling line ++ gap ++ ['\n']))) rest))
      (ofTokens (Tile.tokens (Source.Position.start.after (Source.withReturns
        (left ++ (Tile.spelling line ++ gap ++ ['\n'])))) restAgain))) :
    List.Forall₂ (Returned source again tag tagAgain)
      (ofTokens (Tile.tokens (Source.Position.start.after left)
        (line ++ ⟨gap, Lexeme.lineFeed⟩ :: rest)))
      (ofTokens (Tile.tokens (Source.Position.start.after (Source.withReturns left))
        (lineAgain ++ ⟨gapAgain, Lexeme.lineFeed⟩ :: restAgain))) := by
  rw [Tile.tokens_line rfl, Tile.tokens_line rfl,
    ofTokens_append_newline (Tile.kind_tokens (· == .newline) unbroken _) rfl,
    ofTokens_append_newline (Tile.kind_tokens (· == .newline) unbrokenAgain _) rfl]
  simp only [same]
  exact .cons head tail

theorem endsLine_of_takes {tile : Tile} (takes : Lexeme.mayTakeReturn tile.lexeme.kind) :
    tile.endsLine = false := by
  cases newline : tile.endsLine with
  | false => rfl
  | true =>
    rw [eq_of_beq newline] at takes
    rcases takes with comment | tag
    · cases comment
    · cases tag

/-- The lines of tiles, of which the first one has begun. -/
theorem lines_returned {ending endingAgain : List Char} {tiles tilesAgain : List Tile}
    (related : Tile.Returned ending tiles tilesAgain)
    (unopened : ∀ tile ∈ tiles, tile.lexeme.kind.opensBlock = false)
    (place : tagAgain.location = tag.location) (noReturn : '\r' ∉ source)
    {front : List Tile} (begun : Begun front (Tile.spelling tiles ++ ending))
    (parts : source = left ++ (Tile.spelling (front ++ tiles) ++ ending))
    (againParts : again =
      Source.withReturns left ++ (Tile.spelling (front ++ tilesAgain) ++ endingAgain)) :
    List.Forall₂ (Returned source again tag tagAgain)
      (ofTokens (Tile.tokens (Source.Position.start.after left) (front ++ tiles)))
      (ofTokens (Tile.tokens (Source.Position.start.after (Source.withReturns left))
        (front ++ tilesAgain))) := by
  induction related generalizing left front with
  | nil =>
    rw [List.append_nil] at parts againParts ⊢
    have line := returned_of_kept place noReturn parts againParts begun.oneLine begun.ended
    have unbroken := Tile.kind_tokens (· == .newline) begun.unbroken
    cases front with
    | nil => exact .nil
    | cons first others =>
      rw [ofTokens_unbroken (unbroken _) (by simp), ofTokens_unbroken (unbroken _) (by simp)]
      exact .cons line .nil
  | @newline gap rest restAgain gapOneLine later inductionHypothesis =>
    rw [Tile.spelling_append, List.append_assoc] at parts againParts
    have line := returned_of_kept place noReturn parts againParts begun.oneLine begun.ended
    have same : Source.withReturns left ++ (Tile.spelling front ++ (gap ++ ['\r']) ++ ['\n']) =
        Source.withReturns (left ++ (Tile.spelling front ++ gap ++ ['\n'])) := by
      simp [Source.withReturns_of_oneLine begun.oneLine, Source.withReturns_of_oneLine gapOneLine]
    apply returned_cons line begun.unbroken begun.unbroken same
    have restUnopened := (List.forall_mem_cons.mp unopened).2
    apply inductionHypothesis restUnopened (begun_nil _)
    · simp [parts, Lexeme.lineFeed]
    · rw [← same]
      simp [againParts, Lexeme.lineFeed]
  | @kept tile rest restAgain visible tileOneLine tileEnded later inductionHypothesis =>
    have restUnopened := (List.forall_mem_cons.mp unopened).2
    have stops : tile.endsLine = false := by simpa [Tile.endsLine] using visible
    have longer := begun.append stops tileOneLine tileEnded
    rw [List.append_cons front tile rest] at parts ⊢
    rw [List.append_cons front tile restAgain] at againParts ⊢
    exact inductionHypothesis restUnopened longer parts againParts
  | @took tile rest restAgain takes tileOneLine later inductionHypothesis =>
    have comment : tile.lexeme.kind.isComment = true := by
      rcases takes with comment | tag
      · exact comment
      · rw [unopened tile List.mem_cons_self] at tag
        cases tag
    have visible := endsLine_of_takes takes
    have longer := begun.append visible tileOneLine fun _ => rfl
    have unbrokenAgain : ∀ other ∈ front ++ [⟨tile.gap, tile.lexeme.withReturn⟩],
        other.endsLine = false := by
      intro other listed
      rcases List.mem_append.mp listed with inFront | isLast
      · exact begun.unbroken other inFront
      · rw [List.mem_singleton.mp isLast]
        exact visible
    rw [List.append_cons front tile] at parts ⊢
    rw [List.append_cons front ⟨tile.gap, tile.lexeme.withReturn⟩] at againParts ⊢
    rw [Tile.spelling_append, List.append_assoc] at parts againParts
    have line := returned_of_took place noReturn parts againParts longer.oneLine
      (by simp [Lexeme.lineFeed]) comment
    have same : Source.withReturns left ++
        (Tile.spelling (front ++ [⟨tile.gap, tile.lexeme.withReturn⟩]) ++ [] ++ ['\n']) =
          Source.withReturns (left ++ (Tile.spelling (front ++ [tile]) ++ [] ++ ['\n'])) := by
      rw [Source.withReturns_append, List.append_nil, List.append_nil,
        Source.withReturns_append_of_oneLine longer.oneLine]
      simp
    apply returned_cons line longer.unbroken unbrokenAgain same
    have restUnopened := (List.forall_mem_cons.mp (List.forall_mem_cons.mp unopened).2).2
    apply inductionHypothesis restUnopened (begun_nil _)
    · simp [parts, Lexeme.lineFeed]
    · rw [← same]
      simp [againParts, Lexeme.lineFeed]

theorem dropWhile_of_visible {tile : Tile} (visible : tile.endsLine = false) {rest : List Tile}
    {position : Source.Position} :
    (Tile.tokens position (tile :: rest)).dropWhile endsLine =
      Tile.tokens position (tile :: rest) := by
  rw [Tile.tokens_cons]
  exact List.dropWhile_cons_of_neg (ne_true_of_eq_false visible)

/-- The lines of tiles without the line ends in front of them. -/
theorem lines_dropWhile_returned {ending endingAgain : List Char} {tiles tilesAgain : List Tile}
    (related : Tile.Returned ending tiles tilesAgain)
    (unopened : ∀ tile ∈ tiles, tile.lexeme.kind.opensBlock = false)
    (place : tagAgain.location = tag.location) (noReturn : '\r' ∉ source)
    (parts : source = left ++ (Tile.spelling tiles ++ ending))
    (againParts : again = Source.withReturns left ++ (Tile.spelling tilesAgain ++ endingAgain)) :
    List.Forall₂ (Returned source again tag tagAgain)
      (ofTokens ((Tile.tokens (Source.Position.start.after left) tiles).dropWhile endsLine))
      (ofTokens ((Tile.tokens (Source.Position.start.after (Source.withReturns left))
        tilesAgain).dropWhile endsLine)) := by
  induction related generalizing left with
  | nil => exact .nil
  | @newline gap rest restAgain gapOneLine later inductionHypothesis =>
    have restUnopened := (List.forall_mem_cons.mp unopened).2
    have same := Tile.withReturns_newline left gapOneLine
    rw [Tile.tokens_after_cons, Tile.tokens_after_cons, List.dropWhile_cons_of_pos rfl,
      List.dropWhile_cons_of_pos rfl, ← same]
    apply inductionHypothesis restUnopened
    · rw [parts, Tile.spelling, List.append_assoc, List.append_assoc]
    · rw [againParts, same, Tile.spelling, List.append_assoc, List.append_assoc]
  | @kept tile rest restAgain visible tileOneLine tileEnded later inductionHypothesis =>
    have stops : tile.endsLine = false := by simpa [Tile.endsLine] using visible
    rw [dropWhile_of_visible stops, dropWhile_of_visible stops]
    exact lines_returned (.kept visible tileOneLine tileEnded later) unopened place noReturn
      (begun_nil _) parts againParts
  | @took tile rest restAgain takes tileOneLine later inductionHypothesis =>
    have stops := endsLine_of_takes takes
    have stopsAgain : Tile.endsLine ⟨tile.gap, tile.lexeme.withReturn⟩ = false := stops
    rw [dropWhile_of_visible stops, dropWhile_of_visible stopsAgain]
    exact lines_returned (.took takes tileOneLine later) unopened place noReturn (begun_nil _)
      parts againParts

end Line
end Ritual
