import Ritual.Line
import Ritual.Proofs.Token.Trimmed

namespace Ritual
namespace Line

/-!
# Lines that are cut from their source

A line of tokens that tile a part of the source is cut out exactly: from its
first token if it shares the line of the tag, and from the blanks in front of
that otherwise.  The cut never fails, so such a line is never joined.
-/

/-! ## Lines of tokens -/

/-- Whether a token ends a line. -/
def endsLine (token : Token) : Bool :=
  token.kind == .newline

theorem ofTokens_append_newline {line : List Token}
    (unbroken : ∀ token ∈ line, endsLine token = false) {newline : Token}
    (ends : newline.kind = .newline) (rest : List Token) :
    ofTokens (line ++ newline :: rest) = line :: ofTokens rest := by
  induction line with
  | nil => exact ofTokens_newline rest ends
  | cons token others inductionHypothesis =>
    have later := inductionHypothesis fun other listed =>
      unbroken other (List.mem_cons_of_mem _ listed)
    have here : token.kind ≠ .newline := by
      simpa [endsLine] using unbroken token List.mem_cons_self
    rw [List.cons_append, ofTokens, if_neg here, later]

theorem ofTokens_unbroken {line : List Token} (unbroken : ∀ token ∈ line, endsLine token = false)
    (nonempty : line ≠ []) : ofTokens line = [line] := by
  induction line with
  | nil => exact absurd rfl nonempty
  | cons token others inductionHypothesis =>
    have here : token.kind ≠ .newline := by
      simpa [endsLine] using unbroken token List.mem_cons_self
    rw [ofTokens, if_neg here]
    cases others with
    | nil => rfl
    | cons next rest =>
      rw [inductionHypothesis (fun other listed => unbroken other (List.mem_cons_of_mem _ listed))
        (List.cons_ne_nil next rest)]

theorem ofTokens_ne_nil {tokens : List Token} (nonempty : tokens ≠ []) :
    ofTokens tokens ≠ [] := by
  cases tokens with
  | nil => exact absurd rfl nonempty
  | cons token rest =>
    rw [ofTokens]
    split
    · exact List.cons_ne_nil _ _
    · split <;> exact List.cons_ne_nil _ _

/-- A line is a run of the tokens that it is a line of, and holds no line end. -/
theorem infix_of_mem_ofTokens {tokens line : List Token} (listed : line ∈ ofTokens tokens) :
    line <:+: tokens ∧ ∀ token ∈ line, endsLine token = false := by
  rcases Lexeme.exists_run (fun token => !endsLine token) tokens with
    ⟨run, rest, parts, inside, stops⟩
  have unbroken : ∀ token ∈ run, endsLine token = false := by simpa using inside
  match rest with
  | [] =>
    rw [List.append_nil] at parts
    subst parts
    cases tokens with
    | nil => cases listed
    | cons first others =>
      rw [ofTokens_unbroken unbroken (List.cons_ne_nil _ _)] at listed
      rw [List.mem_singleton.mp listed]
      exact ⟨List.infix_rfl, unbroken⟩
  | newline :: others =>
    have ends : newline.kind = .newline := by simpa [endsLine] using Lexeme.stops_cons.mp stops
    have lengths := congrArg List.length parts
    rw [parts, ofTokens_append_newline unbroken ends] at listed
    rw [parts]
    rcases List.mem_cons.mp listed with rfl | later
    · exact ⟨(List.prefix_append _ _).isInfix, unbroken⟩
    · rcases infix_of_mem_ofTokens later with ⟨inOthers, otherUnbroken⟩
      refine ⟨inOthers.trans ?_, otherUnbroken⟩
      exact (List.suffix_cons newline others).isInfix.trans (List.suffix_append run _).isInfix
termination_by tokens.length
decreasing_by
  simp only [List.length_append, List.length_cons] at lengths
  omega

/-! ## The start and the end of a cut -/

/-- The line around a place behind some blanks begins in front of them, if a line
begins there. -/
theorem startOfLine_append {left gap : List Char} (ended : ∀ last ∈ left.getLast?, last = '\n')
    (oneLine : '\n' ∉ gap) (after : List Char) :
    startOfLine (left ++ gap ++ after) (Source.byteLength (left ++ gap)) =
      Source.byteLength left := by
  have inside : ∀ char ∈ gap.reverse, (char != '\n') = true := by
    intro char listed
    have different : char ≠ '\n' := by
      rintro rfl
      exact oneLine (List.mem_reverse.mp listed)
    simpa using different
  have stops : Lexeme.Stops (· != '\n') left.reverse := by
    intro char found
    rw [List.head?_reverse] at found
    simpa using ended char found
  have run := Lexeme.takeWhile_of_stops inside stops
  rw [startOfLine, Source.splitBytes_append]
  simp only
  rw [bytesAfterLastLineFeed, List.reverse_append, run, Source.byteLength_append,
    Source.byteLength_reverse, Nat.add_sub_cancel_right]

theorem stop_getLast_tokens (position : Source.Position) (first : Tile) (others : List Tile)
    (nonempty : Tile.tokens position (first :: others) ≠ []) :
    ((Tile.tokens position (first :: others)).getLast nonempty).span.stop =
      (position.after (Tile.spelling (first :: others))).offset := by
  induction others generalizing position first with
  | nil => simp [Token.ofLexeme, Source.Position.after_append]
  | cons next rest inductionHypothesis =>
    have later := inductionHypothesis ((position.after first.gap).after first.lexeme.raw) next
      (by simp)
    have shift : Tile.tokens position (first :: next :: rest) =
        Token.ofLexeme (position.after first.gap) first.lexeme ::
          Tile.tokens ((position.after first.gap).after first.lexeme.raw) (next :: rest) :=
      Tile.tokens_cons position first (next :: rest)
    simp only [shift]
    rw [List.getLast_cons (by simp), later, Tile.spelling_cons first,
      Source.Position.after_append, Source.Position.after_append]

/-! ## Cutting tiles -/

/-- Whether a line of tiles that begins at the given characters is on the line of the tag,
which has a number; if it is not, a line of the source begins there, further down. -/
structure Begins (sharesLine : Bool) (tagLine : Nat) (left : List Char) : Prop where
  shared : sharesLine = true → (Source.Position.start.after left).line = tagLine
  own : sharesLine = false →
    (∀ last ∈ left.getLast?, last = '\n') ∧ tagLine < (Source.Position.start.after left).line

theorem Begins.tagLine_le {sharesLine : Bool} {tagLine : Nat} {left : List Char}
    (begins : Begins sharesLine tagLine left) :
    tagLine ≤ (Source.Position.start.after left).line := by
  cases shares : sharesLine with
  | false => exact Nat.le_of_lt (begins.own shares).2
  | true => exact Nat.le_of_eq (begins.shared shares).symm

/-- A token shares the reported line of its tag if it shares the line, because the lines
between the two are too few for the report to repeat a number. -/
theorem Begins.line_eq {sharesLine : Bool} {tagLine : Nat} {tag : Token} {left gap : List Char}
    (begins : Begins sharesLine tagLine left) (tagged : tag.location.line = UInt32.ofNat tagLine)
    (near : (Source.Position.start.after left).line < tagLine + UInt32.size)
    (oneLine : '\n' ∉ gap) :
    (Source.Position.start.after (left ++ gap)).location.line = tag.location.line ↔
      sharesLine = true := by
  have line : (Source.Position.start.after (left ++ gap)).location.line =
      UInt32.ofNat (Source.Position.start.after left).line := by
    rw [Source.Position.after_append]
    exact congrArg UInt32.ofNat (Source.Position.line_after_of_oneLine _ oneLine)
  rw [line, tagged]
  cases shares : sharesLine with
  | false =>
    have below := (begins.own shares).2
    simp only [← UInt32.toNat_inj, UInt32.toNat_ofNat', Bool.false_eq_true, iff_false]
    simp only [UInt32.size] at near
    omega
  | true =>
    simp only [begins.shared shares]

/-- A line of tiles is cut out from its first token on if that is reported on the line of the
tag, and otherwise with all that stands before it on its line. -/
theorem cut?_run {tag : Token} {left whole last : List Char} {first : Tile} {others : List Tile}
    (parts : left = whole ++ last) (ended : ∀ char ∈ whole.getLast?, char = '\n')
    (oneLine : '\n' ∉ last ++ first.gap)
    (nonempty : Tile.tokens (Source.Position.start.after left) (first :: others) ≠ [])
    (after : List Char) :
    cut? (left ++ (Tile.spelling (first :: others) ++ after)) tag
        ((Tile.tokens (Source.Position.start.after left) (first :: others)).head nonempty)
        ((Tile.tokens (Source.Position.start.after left) (first :: others)).getLast nonempty) =
      some (String.ofList
        (if (Source.Position.start.after (left ++ first.gap)).location.line = tag.location.line
        then Tile.spelling (Tile.withoutFirstGap true (first :: others))
        else last ++ Tile.spelling (first :: others))) := by
  have stop := stop_getLast_tokens (Source.Position.start.after left) first others nonempty
  rw [← Source.Position.after_append, Source.Position.offset_after] at stop
  have head : (Tile.tokens (Source.Position.start.after left) (first :: others)).head nonempty =
      Token.ofLexeme (Source.Position.start.after (left ++ first.gap)) first.lexeme := by
    simp [Source.Position.after_append]
  have none : Source.Position.start.offset = 0 := rfl
  rw [cut?, stop, head]
  simp only [Token.ofLexeme, Source.Position.offset_after, none, Nat.zero_add]
  split
  · have sliced := Source.slice?_append (left ++ first.gap)
      (first.lexeme.raw ++ Tile.spelling others) after
    have cut : left ++ (Tile.spelling (first :: others) ++ after) =
        left ++ first.gap ++ (first.lexeme.raw ++ Tile.spelling others ++ after) := by
      simp
    have length : Source.byteLength (left ++ Tile.spelling (first :: others)) =
        Source.byteLength (left ++ first.gap) +
          Source.byteLength (first.lexeme.raw ++ Tile.spelling others) := by
      simp [Nat.add_assoc]
    rw [cut, length, sliced]
    rfl
  · have begun := startOfLine_append ended oneLine
      (first.lexeme.raw ++ Tile.spelling others ++ after)
    have sliced := Source.slice?_append whole (last ++ Tile.spelling (first :: others)) after
    have place : left ++ first.gap = whole ++ (last ++ first.gap) := by
      rw [parts, List.append_assoc]
    have cut : left ++ (Tile.spelling (first :: others) ++ after) =
        whole ++ (last ++ first.gap) ++ (first.lexeme.raw ++ Tile.spelling others ++ after) := by
      simp [parts]
    have cutLine : left ++ (Tile.spelling (first :: others) ++ after) =
        whole ++ (last ++ Tile.spelling (first :: others) ++ after) := by
      simp [parts]
    have length : Source.byteLength (left ++ Tile.spelling (first :: others)) =
        Source.byteLength whole + Source.byteLength (last ++ Tile.spelling (first :: others)) := by
      simp [parts]
    rw [place, cut, begun, ← cut, cutLine, length, sliced]
    rfl

/-- A line is cut out as its tiles are spelled, without the first gap if the line
is the tag's. -/
theorem cut?_tokens {sharesLine : Bool} {tagLine : Nat} {tag : Token} {left : List Char}
    {first : Tile} {others : List Tile} (begins : Begins sharesLine tagLine left)
    (tagged : tag.location.line = UInt32.ofNat tagLine)
    (near : (Source.Position.start.after left).line < tagLine + UInt32.size)
    (blank : Tile.Blank first.gap)
    (nonempty : Tile.tokens (Source.Position.start.after left) (first :: others) ≠ [])
    (after : List Char) :
    cut? (left ++ (Tile.spelling (first :: others) ++ after)) tag
        ((Tile.tokens (Source.Position.start.after left) (first :: others)).head nonempty)
        ((Tile.tokens (Source.Position.start.after left) (first :: others)).getLast nonempty) =
      some (String.ofList (Tile.spelling (Tile.withoutFirstGap sharesLine (first :: others)))) := by
  have line := begins.line_eq tagged near blank.oneLine
  cases shares : sharesLine with
  | false =>
    have nothing : left = left ++ [] := (List.append_nil left).symm
    rw [cut?_run nothing (begins.own shares).1 blank.oneLine nonempty after,
      if_neg (by simp [line, shares])]
    rfl
  | true =>
    rcases Source.exists_lines left with ⟨whole, last, parts, oneLine, ended⟩
    have inLine : '\n' ∉ last ++ first.gap := by simp [oneLine, blank.oneLine]
    rw [cut?_run parts ended inLine nonempty after, if_pos (line.mpr shares)]

end Line
end Ritual
