import Mathlib.Data.List.TakeWhile
import Ritual.Proofs.Line.Cut
import Ritual.Proofs.Source.Bytes
import Ritual.Proofs.Token.Behind
import Ritual.Segment

namespace Ritual

/-!
# Segments with other text around their source

A segment of a source makes the same block if other text is put behind the source and
whole lines are put in front of it, and the segment's tokens move with them.  Cutting a
line looks for the line feed before it, which is why the text in front must be whole
lines; whether a token is on the line of its tag is not changed, since both are moved
by the same number of lines, even when the reported numbers wrap.
-/

namespace Line

/-! ## One line -/

/-- The start of a line moves with the lines in front of the source, and is a boundary. -/
theorem startOfLine_around {left source : List Char} (lines : Source.WholeLines left)
    (right : List Char) {offset : Nat} (boundary : Source.IsBoundary source offset) :
    startOfLine (left ++ (source ++ right)) (Source.byteLength left + offset) =
        Source.byteLength left + startOfLine source offset ∧
      Source.IsBoundary source (startOfLine source offset) := by
  rcases boundary with ⟨before, after, rfl, rfl⟩
  rcases Source.exists_lines before with ⟨whole, last, rfl, oneLine, ended⟩
  have parts : left ++ (whole ++ last ++ after ++ right) =
      left ++ whole ++ last ++ (after ++ right) := by simp
  have length : Source.byteLength left + Source.byteLength (whole ++ last) =
      Source.byteLength (left ++ whole ++ last) := by
    rw [List.append_assoc, Source.byteLength_append left]
  rw [parts, length, startOfLine_append (lines.append ended) oneLine,
    startOfLine_append ended oneLine, Source.byteLength_append]
  refine ⟨rfl, whole, last ++ after, ?_, rfl⟩
  rw [List.append_assoc]

theorem cut?_around {left source : List Char} (lines : Source.WholeLines left)
    (right : List Char) (tag : Token) {first last : Token}
    (starts : Source.IsBoundary source first.span.start)
    (stops : Source.IsBoundary source last.span.stop) :
    cut? (left ++ (source ++ right)) (tag.behind left) (first.behind left) (last.behind left) =
      cut? source tag first last := by
  rcases startOfLine_around lines right starts with ⟨moved, begun⟩
  unfold cut?
  simp only [Token.behind, UInt32.add_right_inj]
  by_cases shares : first.location.line = tag.location.line
  · rw [if_pos shares, if_pos shares, Source.slice?_around left right starts stops]
  · rw [if_neg shares, if_neg shares, moved, Source.slice?_around left right begun stops]

theorem partsAfter_behind (left : List Char) (part : String) (tokens : List Token) :
    partsAfter part (tokens.map (Token.behind left)) = partsAfter part tokens := by
  induction tokens generalizing part with
  | nil => rfl
  | cons token rest inductionHypothesis =>
    have same : attaches (token.behind left) = attaches token := rfl
    rw [List.map_cons, partsAfter, partsAfter, same, inductionHypothesis, inductionHypothesis]
    rfl

theorem joined_behind (left : List Char) (tokens : List Token) :
    joined (tokens.map (Token.behind left)) = joined tokens := by
  cases tokens with
  | nil => rfl
  | cons token rest =>
    rw [joined, joined, List.map_cons, parts, partsAfter_behind]
    rfl

/-- Whether the spans of tokens begin and end between characters of a source. -/
def Within (source : List Char) (tokens : List Token) : Prop :=
  ∀ token ∈ tokens,
    Source.IsBoundary source token.span.start ∧ Source.IsBoundary source token.span.stop

/-- A line is written out as it was. -/
theorem render_around (mode : Reconstruction) {left source : List Char}
    (lines : Source.WholeLines left) (right : List Char) (tag : Token) {line : List Token}
    (within : Within source line) :
    render mode (left ++ (source ++ right)) (tag.behind left) (line.map (Token.behind left)) =
      render mode source tag line := by
  have join := joined_behind left line
  cases line with
  | nil => rfl
  | cons first rest =>
    rw [List.map_cons] at join ⊢
    cases mode with
    | tokens => exact join
    | source =>
      have last : (first.behind left :: rest.map (Token.behind left)).getLast (by simp) =
          ((first :: rest).getLast (by simp)).behind left := by
        have mapped : (first :: rest).map (Token.behind left) ≠ [] := by simp
        exact List.getLast_map mapped
      have cut := cut?_around lines right tag (within first List.mem_cons_self).1
        (within _ (List.getLast_mem (List.cons_ne_nil first rest))).2
      simp only [render]
      rw [last, cut, join]

/-! ## Grouping -/

theorem ofTokens_behind (left : List Char) (tokens : List Token) :
    ofTokens (tokens.map (Token.behind left)) =
      (ofTokens tokens).map (List.map (Token.behind left)) := by
  induction tokens with
  | nil => rfl
  | cons token rest inductionHypothesis =>
    rw [List.map_cons, ofTokens, ofTokens, inductionHypothesis, Token.behind_kind]
    by_cases newline : token.kind = .newline
    · rw [if_pos newline, if_pos newline]
      rfl
    · rw [if_neg newline, if_neg newline]
      cases ofTokens rest <;> rfl

end Line

/-- The block of a source behind the characters that are put in front of it. -/
def Block.behind (left : List Char) (block : Block) : Block :=
  { block with location :=
      ⟨UInt32.ofNat (left.count '\n') + block.location.line, block.location.column⟩ }

/-- The note of a source behind the characters that are put in front of it. -/
def DeferredTag.behind (left : List Char) (note : DeferredTag) : DeferredTag :=
  { note with location :=
      ⟨UInt32.ofNat (left.count '\n') + note.location.line, note.location.column⟩ }

@[simp] theorem Block.behind_nil (block : Block) : block.behind [] = block := by
  have noLine : UInt32.ofNat 0 = 0 := rfl
  simp only [Block.behind, List.count_nil, noLine, UInt32.zero_add]

namespace Segment

/-- The segment of a source behind the characters that are put in front of it. -/
def behind (left : List Char) (segment : Segment) : Segment :=
  ⟨segment.tag.behind left, segment.content.map (Token.behind left)⟩

@[simp] theorem behind_nil (segment : Segment) : segment.behind [] = segment := by
  have unmoved : Token.behind [] = id := by
    funext token
    exact Token.behind_nil token
  rw [behind, unmoved, List.map_id]
  rfl

/-! ## What a segment makes -/

theorem lines_behind (left : List Char) (segment : Segment) :
    (segment.behind left).lines = segment.lines.map (List.map (Token.behind left)) := by
  rw [lines, lines, behind, List.dropWhile_map, Line.ofTokens_behind]
  rfl

theorem body_around (mode : Line.Reconstruction) {left source : List Char}
    (lines : Source.WholeLines left) (right : List Char) {segment : Segment}
    (within : Line.Within source segment.content) :
    (segment.behind left).body mode (left ++ (source ++ right)) = segment.body mode source := by
  rw [body, body, lines_behind, List.map_map]
  apply congrArg ("\n".intercalate ·)
  apply List.map_congr_left
  intro line listed
  apply Line.render_around mode lines right
  intro token inLine
  have inContent := (Line.infix_of_mem_ofTokens listed).1.subset inLine
  exact within token ((List.dropWhile_sublist _).subset inContent)

theorem block?_around (mode : Line.Reconstruction) {left source : List Char}
    (lines : Source.WholeLines left) (right : List Char) {segment : Segment}
    (within : Line.Within source segment.content) :
    (segment.behind left).block? mode (left ++ (source ++ right)) =
      (segment.block? mode source).map (Block.behind left) := by
  have body := body_around mode lines right within
  unfold block?
  simp only [body]
  by_cases language : segment.tag.kind = .languageParam
  · rw [if_pos language]
    exact if_pos language
  · rw [if_neg language]
    exact if_neg language

theorem deferred?_behind (left : List Char) (segment : Segment) :
    (segment.behind left).deferred? = segment.deferred?.map (DeferredTag.behind left) := by
  unfold deferred?
  cases kind : segment.tag.kind <;> simp [behind, kind, DeferredTag.behind, Token.behind]

/-! ## The segments of some tokens -/

theorem ofTokens_behind (left : List Char) (tokens : List Token) :
    ofTokens (tokens.map (Token.behind left)) = (ofTokens tokens).map (behind left) := by
  induction tokens with
  | nil => rfl
  | cons token rest inductionHypothesis =>
    rw [List.map_cons, ofTokens, ofTokens, inductionHypothesis, Token.behind_kind,
      List.takeWhile_map]
    split <;> rfl

/-- Tokens that begin with a tag leave the segments before them alone. -/
theorem ofTokens_append (first : List Token) {second : List Token}
    (opens : Lexeme.Stops (fun token => !token.kind.opensBlock) second) :
    ofTokens (first ++ second) = ofTokens first ++ ofTokens second := by
  induction first with
  | nil => rfl
  | cons token rest inductionHypothesis =>
    rw [List.cons_append, ofTokens, ofTokens, inductionHypothesis,
      Lexeme.takeWhile_append_of_stops rest opens]
    split <;> rfl

theorem ofTokens_unopened {tokens : List Token}
    (unopened : ∀ token ∈ tokens, token.kind.opensBlock = false) : ofTokens tokens = [] := by
  induction tokens with
  | nil => rfl
  | cons token rest inductionHypothesis =>
    rw [ofTokens, if_neg (by simp [unopened token List.mem_cons_self])]
    exact inductionHypothesis fun other listed => unopened other (List.mem_cons_of_mem _ listed)

/-- A tag and tokens that open nothing are one segment. -/
theorem ofTokens_tag {tag : Token} (opens : tag.kind.opensBlock = true) {tokens : List Token}
    (unopened : ∀ token ∈ tokens, token.kind.opensBlock = false) :
    ofTokens (tag :: tokens) = [⟨tag, tokens⟩] := by
  have closed : ∀ token ∈ tokens, (!token.kind.opensBlock) = true := by
    intro token listed
    simp [unopened token listed]
  have whole := Lexeme.takeWhile_of_stops closed (Lexeme.stops_nil _)
  rw [List.append_nil] at whole
  rw [ofTokens, if_pos opens, ofTokens_unopened unopened, whole]

/-- The content of a segment is a run of the tokens behind its tag, and opens nothing. -/
theorem infix_of_mem_ofTokens {tokens : List Token} {segment : Segment}
    (listed : segment ∈ ofTokens tokens) :
    segment.content <:+: tokens ∧ ∀ token ∈ segment.content, token.kind.opensBlock = false := by
  induction tokens with
  | nil => cases listed
  | cons token rest inductionHypothesis =>
    have behind : rest <:+: token :: rest := (List.suffix_cons token rest).isInfix
    rw [ofTokens] at listed
    split at listed
    · rcases List.mem_cons.mp listed with rfl | later
      · refine ⟨(List.takeWhile_prefix _).isInfix.trans behind, ?_⟩
        intro other inContent
        simpa using List.mem_takeWhile_imp inContent
      · exact ⟨(inductionHypothesis later).1.trans behind, (inductionHypothesis later).2⟩
    · exact ⟨(inductionHypothesis listed).1.trans behind, (inductionHypothesis listed).2⟩

end Segment
end Ritual
