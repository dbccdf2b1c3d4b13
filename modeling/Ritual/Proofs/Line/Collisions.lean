import Mathlib.Data.List.Chain
import Mathlib.Tactic.MkIffOfInductiveProp
import Ritual.Proofs.Lexeme.Forms
import Ritual.Proofs.Lexeme.LineEndings
import Ritual.Proofs.Line.Joined
import Ritual.Proofs.Segment.Behind
import Ritual.Proofs.Tree.Blocks

namespace Ritual

/-!
# What joining a line may change

Joining puts punctuation directly behind the token in front of it, and a space between any
other two tokens.  No lexeme goes on behind a space.  Behind punctuation it goes on in three
ways only: a second colon makes an invocation, a bracket makes a tag of the word `LANGUAGE`,
and a point makes a fraction of a whole number.

Everything else of a line comes back: a literal is closed even if its source did not close
it, and a comment, which would swallow what follows, is the last token of its line.
-/

namespace Lexeme

/-! ## Lexemes that one more character continues -/

variable {lexeme : Lexeme} {after : List Char}

theorem not_stands_colon (single : lexeme.raw = [':']) (colon : after.head? = some ':') :
    ¬Stands lexeme after := by
  intro stands
  rcases List.head?_eq_some_iff.mp colon with ⟨others, rfl⟩
  rcases stands.scan_eq with ⟨char, rest, parts, _, found⟩
  rw [single] at parts
  cases parts
  have longer : (invocation others).raw ≠ [':'] := by
    unfold invocation
    split <;> simp
  exact longer ((congrArg raw found).trans single)

theorem not_stands_school (unknown : lexeme.kind = .unknown) (colons : [':', ':'] <+: lexeme.raw)
    (colon : after.head? = some ':') : ¬Stands lexeme after := by
  intro stands
  cases stands with
  | loneSchool _ _ noColon => exact noColon colon
  | unknown _ _ _ _ _ _ _ => simpa using colons.length_le
  | comment _ _ => exact commentKind_ne rfl _ unknown
  | _ => cases unknown

theorem not_stands_language (identifier : lexeme.kind = .identifier)
    (named : TagWord.ofName? lexeme.raw = some .language) (bracket : after.head? = some '[') :
    ¬Stands lexeme after := by
  intro stands
  cases stands with
  | identifier _ _ unmarked =>
    rcases List.head?_eq_some_iff.mp bracket with ⟨rest, rfl⟩
    exact unmarked .language named ⟨rest, rfl⟩
  | comment _ _ => exact commentKind_ne rfl _ identifier
  | _ => cases identifier

theorem not_stands_number (number : lexeme.kind = .number) (whole : '.' ∉ lexeme.raw)
    (point : after.head? = some '.') : ¬Stands lexeme after := by
  intro stands
  cases stands with
  | wholeNumber _ _ _ noPoint => exact noPoint point
  | pointNumber _ _ _ _ => exact whole (by simp)
  | comment _ _ => exact commentKind_ne rfl _ number
  | _ => cases number

end Lexeme

namespace Line

/-- Whether a token is the given punctuation, and no literal that denotes it. -/
def IsPunctuation (sign : Char) (token : Token) : Prop :=
  token.kind ≠ .string ∧ token.text = String.singleton sign

instance (word : List Char) (capitals : String) : Decidable (Lexeme.SpelledAs word capitals) :=
  inferInstanceAs (Decidable (_ = _))

instance (sign : Char) (token : Token) : Decidable (IsPunctuation sign token) :=
  inferInstanceAs (Decidable (_ ∧ _))

/-- Whether punctuation is read together with the token that joining puts it behind. -/
@[mk_iff]
inductive Collides (first second : Token) : Prop where
  /-- A colon behind a colon, or behind two colons and a school. -/
  | colon (sign : IsPunctuation ':' second)
      (front : IsPunctuation ':' first ∨
        first.kind = .unknown ∧ [':', ':'] <+: first.text.toList)
  /-- A bracket behind the word `LANGUAGE`, in any ASCII case. -/
  | bracket (sign : IsPunctuation '[' second) (identifier : first.kind = .identifier)
      (spelled : Lexeme.SpelledAs first.text.toList "LANGUAGE")
  /-- A point behind a number that has none. -/
  | point (sign : IsPunctuation '.' second) (number : first.kind = .number)
      (whole : '.' ∉ first.text.toList)

instance (first second : Token) : Decidable (Collides first second) :=
  decidable_of_iff' _ (collides_iff first second)

variable {first second token : Token} {rest line : List Token}

theorem language_iff {word : List Char} :
    Lexeme.TagWord.ofName? word = some .language ↔ Lexeme.SpelledAs word "LANGUAGE" := by
  rw [Lexeme.ofName?_eq_some_iff]
  simp [Lexeme.TagWord.spellings]

/-! ## Tokens that collide -/

theorem lexemeOf_eq (noString : token.kind ≠ .string) :
    lexemeOf token = ⟨token.kind, token.text.toList, token.text.toList⟩ := by
  rw [lexemeOf, written_of_ne noString]

theorem head?_spelling_of_punctuation {char : Char} (sign : IsPunctuation char second)
    (listed : String.singleton char ∈ attached) (rest : List Token) :
    (Tile.spelling ((second :: rest).map tileOf)).head? = some char := by
  have joins : attaches second = true := attaches_iff.mpr ⟨sign.1, sign.2 ▸ listed⟩
  simp [tileOf, lexemeOf, joins, written_of_attaches joins, sign.2]

/-- A token that stands before punctuation does not collide with it. -/
theorem not_collides_of_stands
    (stands : Lexeme.Stands (lexemeOf first) (Tile.spelling ((second :: rest).map tileOf))) :
    ¬Collides first second := by
  intro collides
  cases collides with
  | colon sign front =>
    have next := head?_spelling_of_punctuation sign (by decide) rest
    rcases front with single | ⟨unknown, colons⟩
    · rw [lexemeOf_eq single.1] at stands
      refine Lexeme.not_stands_colon ?_ next stands
      rw [single.2]
      rfl
    · rw [lexemeOf_eq (by simp [unknown])] at stands
      exact Lexeme.not_stands_school unknown colons next stands
  | bracket sign identifier spelled =>
    have next := head?_spelling_of_punctuation sign (by decide) rest
    rw [lexemeOf_eq (by simp [identifier])] at stands
    exact Lexeme.not_stands_language identifier (language_iff.mpr spelled) next stands
  | point sign number whole =>
    have next := head?_spelling_of_punctuation sign (by decide) rest
    rw [lexemeOf_eq (by simp [number])] at stands
    exact Lexeme.not_stands_number number whole next stands

theorem exists_punctuation {char : Char} (noSpace : char ≠ ' ')
    (found : (Tile.spelling (rest.map tileOf)).head? = some char) :
    ∃ next others, rest = next :: others ∧ IsPunctuation char next ∧
      Tile.spelling (rest.map tileOf) = char :: Tile.spelling (others.map tileOf) := by
  rcases head?_spelling found with same | ⟨_, next, others, parts, joins, text, spelled⟩
  · exact absurd same noSpace
  · exact ⟨next, others, parts, ⟨(attaches_iff.mp joins).1, text⟩, spelled⟩

/-- Whether no two tokens beside each other collide. -/
def Apart (line : List Token) : Prop :=
  line.IsChain fun first second => ¬Collides first second

instance (line : List Token) : Decidable (Apart line) :=
  inferInstanceAs (Decidable (List.IsChain _ line))

theorem apart_iff : Apart line ↔ ¬∃ before first second after,
    line = before ++ first :: second :: after ∧ Collides first second := by
  rw [Apart, List.isChain_iff_forall_rel_of_append_cons_cons]
  constructor
  · rintro apart ⟨before, first, second, after, parts, collides⟩
    exact apart parts collides
  · intro none first second before after parts collides
    exact none ⟨before, first, second, after, parts, collides⟩

theorem apart_of_tiling (tiling : Tile.Tiling (line.map tileOf) []) : Apart line := by
  induction line with
  | nil => exact List.isChain_nil
  | cons first rest inductionHypothesis =>
    rcases tiling with ⟨_, stands, later⟩
    cases rest with
    | nil => exact List.isChain_singleton first
    | cons second others =>
      rw [List.append_nil] at stands
      exact List.isChain_cons_cons.mpr ⟨not_collides_of_stands stands, inductionHypothesis later⟩

/-! ## Tokens that do not -/

theorem Apart.head?_ne (apart : Apart (token :: rest)) {char : Char} (noSpace : char ≠ ' ')
    (collides : ∀ next, IsPunctuation char next → Collides token next) :
    (Tile.spelling (rest.map tileOf)).head? ≠ some char := by
  intro found
  rcases exists_punctuation noSpace found with ⟨next, others, rfl, sign, _⟩
  exact (List.isChain_cons_cons.mp apart).1 (collides next sign)

/-- What is spelled behind a token that collides with nothing is no marker that makes a tag of
the token. -/
theorem Apart.unmarked (apart : Apart (token :: rest)) (identifier : token.kind = .identifier)
    (tag : Lexeme.TagWord) (named : Lexeme.TagWord.ofName? token.text.toList = some tag) :
    ¬tag.marker <+: Tile.spelling (rest.map tileOf) := by
  have noColons : ¬[':', ':'] <+: Tile.spelling (rest.map tileOf) := by
    rintro ⟨tail, spelled⟩
    have found : (Tile.spelling (rest.map tileOf)).head? = some ':' := by
      rw [← spelled]
      rfl
    rcases exists_punctuation (by decide) found with ⟨next, others, rfl, sign, behind⟩
    -- the second colon is a token of its own, which collides with the first
    have later : Apart (next :: others) := (List.isChain_cons_cons.mp apart).2
    refine later.head?_ne (by decide) (fun _ other => .colon other (Or.inl sign)) ?_
    rw [behind] at spelled
    rw [← (List.cons.inj spelled).2]
    rfl
  cases tag with
  | language =>
    rintro ⟨tail, spelled⟩
    refine apart.head?_ne (by decide)
      (fun _ sign => .bracket sign identifier (language_iff.mp named)) ?_
    rw [← spelled]
    rfl
  | web => exact noColons
  | quantum => exact noColons
  | code => exact noColons

/-- The lexeme of a token stands before what joining puts behind the token. -/
theorem stands_lexemeOf {lexeme : Lexeme} {after : List Char}
    (stands : Lexeme.Stands lexeme after) (kind : token.kind = lexeme.kind)
    (text : token.text.toList = lexeme.text) (visible : token.kind ≠ .newline)
    (unopened : token.kind.opensBlock = false)
    (last : token.kind.isComment = true → rest = []) (apart : Apart (token :: rest)) :
    Lexeme.Stands (lexemeOf token) (Tile.spelling (rest.map tileOf)) := by
  by_cases literal : token.kind = .string
  · exact stands_of_string literal rest
  -- any other lexeme is spelled as it was, so only what follows it is new
  have same : lexemeOf token = lexeme := by
    rw [lexemeOf_eq literal, kind, text]
    have raw := stands.text_eq_raw (kind ▸ literal)
    cases lexeme
    cases raw
    rfl
  rw [kind] at unopened
  rw [same]
  cases stands with
  | newline => exact absurd kind visible
  | outputBinding => exact .outputBinding
  | dataBlockStart => exact .dataBlockStart
  | dataBlockEnd => exact .dataBlockEnd
  | tripleQuote => exact .tripleQuote
  | schoolInvocation schoolNamed operationNamed _ =>
    exact .schoolInvocation schoolNamed operationNamed (stops_spelling (by decide) rest)
  | loneSchool schoolNamed _ _ =>
    refine .loneSchool schoolNamed (stops_spelling (by decide) rest)
      (apart.head?_ne (by decide) fun _ sign => .colon sign (Or.inr ⟨kind, ?_⟩))
    rw [text]
    exact ⟨_, rfl⟩
  | closedString _ _ _ => exact absurd kind literal
  | openString _ _ => exact absurd kind literal
  | brokenString _ _ => exact absurd kind literal
  | comment oneLine _ =>
    rw [last (kind ▸ Lexeme.commentKind_isComment _)]
    exact .comment oneLine (Lexeme.stops_nil _)
  | wholeNumber nonempty numeric _ _ =>
    refine .wholeNumber nonempty numeric (stops_spelling (by decide) rest)
      (apart.head?_ne (by decide) fun _ sign => .point sign kind ?_)
    rw [text]
    exact List.count_eq_zero.mp (Lexeme.count_point_of_numeric numeric)
  | pointNumber nonempty numeric fractionNumeric _ =>
    exact .pointNumber nonempty numeric fractionNumeric (stops_spelling (by decide) rest)
  | closedLanguage _ _ _ => cases unopened
  | openLanguage _ _ _ _ => cases unopened
  | web _ _ _ _ => cases unopened
  | quantum _ _ _ _ => cases unopened
  | code _ _ => cases unopened
  | identifier isWord _ _ =>
    refine .identifier isWord (stops_spelling (by decide) rest) fun tag named => ?_
    exact apart.unmarked kind tag (text ▸ named)
  | unknown plain noSign noNumber noWord _ _ _ =>
    refine .unknown plain noSign noNumber noWord ?_ (fun _ => head?_spelling_ne (by decide) rest)
      (fun _ => head?_spelling_ne (by decide) rest)
    rintro rfl
    refine apart.head?_ne (by decide) fun _ sign => .colon sign (Or.inl ⟨literal, ?_⟩)
    rw [← String.toList_inj, text]
    rfl

/-! ## Lines of a source -/

theorem tiling_tiles_iff {after : List Char} :
    Tile.Tiling (tiles line) after ↔ Tile.Tiling (line.map tileOf) after := by
  cases line with
  | nil => exact Iff.rfl
  | cons first rest => exact and_congr_left' (iff_of_true Tile.blank_nil (blank_gap first))

/-- Nothing stands behind a comment on its line. -/
theorem eq_nil_of_comment {lexeme : Lexeme} {run : List Tile} {after : List Char}
    (stands : Lexeme.Stands lexeme (Tile.spelling run ++ after))
    (comment : lexeme.kind.isComment = true) (tiling : Tile.Tiling run after)
    (visible : ∀ tile ∈ run, tile.lexeme.kind ≠ .newline) : run = [] := by
  cases run with
  | nil => rfl
  | cons tile others =>
    rcases tiling with ⟨blank, tileStands, _⟩
    have ended := stands.after_comment comment
    rw [Tile.spelling_cons, List.append_assoc, List.append_assoc] at ended
    rcases ended with nothing | lineFeed
    · have empty := (List.append_eq_nil_iff.mp (List.append_eq_nil_iff.mp nothing).2).1
      exact absurd empty tileStands.raw_ne_nil
    · rcases List.head?_eq_some_iff.mp lineFeed with ⟨tail, parts⟩
      cases gap : tile.gap with
      | nil =>
        rw [gap, List.nil_append] at parts
        have lineEnd : Lexeme.Stands (Lexeme.verbatim .newline ['\n']) tail := .newline
        have newline := tileStands.unique lineEnd parts
        exact absurd (congrArg Lexeme.kind newline) (visible tile List.mem_cons_self)
      | cons char rest =>
        rw [gap] at parts blank
        rw [(List.cons.inj parts).1] at blank
        exact absurd (blank '\n' List.mem_cons_self) (by decide)

/-- Tokens on one line that do not collide are read again from the line that joins them. -/
theorem tiling_tileOf {position : Source.Position} {run : List Tile} {after : List Char}
    (tiling : Tile.Tiling run after)
    (visible : ∀ tile ∈ run, tile.lexeme.kind ≠ .newline)
    (unopened : ∀ tile ∈ run, tile.lexeme.kind.opensBlock = false)
    (apart : Apart (Tile.tokens position run)) :
    Tile.Tiling ((Tile.tokens position run).map tileOf) [] := by
  induction run generalizing position with
  | nil => trivial
  | cons tile others inductionHypothesis =>
    rcases tiling with ⟨_, stands, later⟩
    rw [Tile.tokens_cons] at apart ⊢
    refine ⟨blank_gap _, ?_, inductionHypothesis later
      (fun other listed => visible other (List.mem_cons_of_mem _ listed))
      (fun other listed => unopened other (List.mem_cons_of_mem _ listed)) apart.of_cons⟩
    rw [List.append_nil]
    apply stands_lexemeOf stands rfl String.toList_ofList (visible tile List.mem_cons_self)
      (unopened tile List.mem_cons_self) _ apart
    intro comment
    rw [eq_nil_of_comment stands comment later
      fun other listed => visible other (List.mem_cons_of_mem _ listed)]
    rfl

end Line

theorem Tile.forall_kind_of_tokens (property : TokenKind → Prop) {position : Source.Position}
    {run : List Tile} (all : ∀ token ∈ Tile.tokens position run, property token.kind) :
    ∀ tile ∈ run, property tile.lexeme.kind := by
  intro tile listed
  rcases List.append_of_mem listed with ⟨before, after, rfl⟩
  apply all (Token.ofLexeme ((position.after (Tile.spelling before)).after tile.gap) tile.lexeme)
  simp [Tile.tokens_append]

namespace Segment

/-- A line of a segment of a source is read off tiles that stand in the source. -/
theorem exists_tiles_of_line {source : String} {segment : Segment} {line : List Token}
    (listed : segment ∈ ofTokens (Tree.live (Token.tokenize source)))
    (inSegment : line ∈ segment.lines) :
    ∃ position run after, line = Tile.tokens position run ∧ Tile.Tiling run after ∧
      ∀ tile ∈ run, tile.lexeme.kind ≠ .newline ∧ tile.lexeme.kind.opensBlock = false := by
  rcases Tile.exists_reading source.toList with ⟨reading⟩
  rw [Tree.live_tokenize reading] at listed
  rcases infix_of_mem_ofTokens listed with ⟨contentInfix, unopened⟩
  rcases Line.infix_of_mem_ofTokens inSegment with ⟨lineInfix, unbroken⟩
  have inContent := lineInfix.trans (List.dropWhile_suffix _).isInfix
  rcases inContent.trans contentInfix with ⟨before, behind, parts⟩
  rcases Tile.tokens_eq_append parts.symm with ⟨front, back, split, frontTokens, _⟩
  rcases Tile.tokens_eq_append frontTokens.symm with ⟨earlier, run, frontSplit, _, rfl⟩
  have tiling := reading.tiling
  rw [split, frontSplit] at tiling
  have runTiling := (Tile.tiling_append.mp (Tile.tiling_append.mp tiling).1).2
  refine ⟨_, run, _, rfl, runTiling, ?_⟩
  apply Tile.forall_kind_of_tokens fun kind => kind ≠ .newline ∧ kind.opensBlock = false
  intro token inLine
  refine ⟨?_, unopened token (inContent.subset inLine)⟩
  simpa [Line.endsLine] using unbroken token inLine

end Segment

namespace Line

/-- The line that joins a line of a source is read as the same tokens, up to their places,
exactly if no two tokens beside each other collide. -/
theorem joined_rereads {source : String} {segment : Segment} {line : List Token}
    (listed : segment ∈ Segment.ofTokens (Tree.live (Token.tokenize source)))
    (inSegment : line ∈ segment.lines) :
    Rereads line ↔ ¬∃ before first second after,
      line = before ++ first :: second :: after ∧ Collides first second := by
  rw [← apart_iff]
  refine rereads_iff_tiling.trans (tiling_tiles_iff.trans ⟨apart_of_tiling, ?_⟩)
  intro apart
  rcases Segment.exists_tiles_of_line listed inSegment with
    ⟨position, run, after, rfl, tiling, inLine⟩
  exact tiling_tileOf tiling (fun tile inRun => (inLine tile inRun).1)
    (fun tile inRun => (inLine tile inRun).2) apart

/-- A call with a literal is read again, and a number before a point that stands apart is
not. -/
theorem joined_rereads_javascript :
    ∃ segment ∈ Segment.ofTokens (Tree.live (Token.tokenize "JS::\nf('a\"b')\n1 .x\n")),
      ∃ call ∈ segment.lines, ∃ member ∈ segment.lines,
        (joined call = "f( \"a\\\"b\")" ∧ Rereads call) ∧
          joined member = "1. x" ∧ ¬Rereads member := by
  have lines : (Segment.ofTokens (Tree.live (Token.tokenize "JS::\nf('a\"b')\n1 .x\n"))).map
      Segment.lines =
        [[[⟨.identifier, "f", ⟨2, 1⟩, ⟨5, 6⟩⟩, ⟨.unknown, "(", ⟨2, 2⟩, ⟨6, 7⟩⟩,
            ⟨.string, "a\"b", ⟨2, 3⟩, ⟨7, 12⟩⟩, ⟨.unknown, ")", ⟨2, 8⟩, ⟨12, 13⟩⟩],
          [⟨.number, "1", ⟨3, 1⟩, ⟨14, 15⟩⟩, ⟨.unknown, ".", ⟨3, 3⟩, ⟨16, 17⟩⟩,
            ⟨.identifier, "x", ⟨3, 4⟩, ⟨17, 18⟩⟩]]] := by
    decide +kernel
  rcases List.map_eq_singleton_iff.mp lines with ⟨segment, single, lines⟩
  have listed := single ▸ List.mem_singleton_self segment
  have call := lines ▸ List.mem_cons_self
  have member := lines ▸ List.mem_cons_of_mem _ List.mem_cons_self
  refine ⟨segment, listed, _, call, _, member, ⟨by decide +kernel, ?_⟩, by decide +kernel, ?_⟩
  · exact (joined_rereads listed call).mpr (apart_iff.mp (by decide +kernel))
  · intro rereads
    exact (joined_rereads listed member).mp rereads
      ⟨[], _, _, [_], rfl, .point (by decide) rfl (by decide)⟩

end Line
end Ritual
