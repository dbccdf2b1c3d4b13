import Ritual.Proofs.Segment.Rendered
import Ritual.Proofs.Tree.Joined
import Ritual.Proofs.Tree.Relexed

namespace Ritual

/-!
# Blocks that are written back

Every block of a source is written back as the text of its tag, a line feed, its body and
a line feed.  If every literal of the source has its closing quote, then the text of all
blocks is read as the same blocks: no body absorbs the next tag, none leaks a tag of its
own, and what the body was cut from makes no difference.  Writing back and reading is
therefore a fixpoint of compiling.
-/

namespace Token

/-- The characters of a source under the span of a token. -/
def sourceText (source : List Char) (token : Token) : List Char :=
  (Source.slice? source token.span.start token.span.stop).getD []

/-- Whether a literal of a source ends with its closing quote. -/
def IsTerminated (source : List Char) (token : Token) : Prop :=
  ∃ quote raw value, (quote = '"' ∨ quote = '\'') ∧ Lexeme.LiteralBody quote raw value ∧
    token.sourceText source = quote :: (raw ++ [quote])

theorem sourceText_ofLexeme {source left after : List Char} {lexeme : Lexeme}
    (parts : source = left ++ (lexeme.raw ++ after)) :
    (ofLexeme (Source.Position.start.after left) lexeme).sourceText source = lexeme.raw := by
  subst parts
  rw [sourceText, Tile.span_ofLexeme, Source.slice?_append]
  rfl

end Token

namespace Segment

/-- Blocks that are made by one tag text and one body have the same content. -/
theorem Makes.content_eq {mode otherMode : Line.Reconstruction} {source other : List Char}
    {segment moved : Segment} {block again : Block} (makes : Makes mode source segment block)
    (makesAgain : Makes otherMode other moved again) (tag : moved.tag.text = segment.tag.text)
    (body : moved.body otherMode other = segment.body mode source) :
    again.content = block.content := by
  have language : again.language = block.language := by
    rw [makesAgain.language, makes.language, tag]
  have kind : again.kind = block.kind := by
    rw [makesAgain.kind, makes.kind, language]
  have bodies : again.body = block.body := by
    rw [makesAgain.body, makes.body, body]
  rw [Block.content, Block.content, kind, language, bodies]

/-- A language tag and the tiles behind it that can be written back: no literal among them lacks
its closing quote, none of them is a tag, and their lines can be counted. -/
structure Writable (tag : Lexeme) (content : List Tile) : Prop where
  stands : ∃ behind, Lexeme.Stands tag behind
  language : tag.kind = .languageParam
  tiling : ∃ behind, Tile.Tiling content behind
  closed : ∀ tile ∈ content, ¬Lexeme.Unclosed tile.lexeme
  unopened : ∀ tile ∈ content, tile.lexeme.kind.opensBlock = false
  few : (Tile.spelling content).count '\n' + 1 < UInt32.size

namespace Writable

variable {tag : Lexeme} {content : List Tile}

/-- The tiles of a written segment. -/
def tiles (tag : Lexeme) (content : List Tile) : List Tile :=
  ⟨[], tag⟩ :: Tile.behindTag content

theorem opens (writable : Writable tag content) : tag.kind.opensBlock = true := by
  rw [writable.language]
  rfl

theorem tiling_tiles (writable : Writable tag content) (after : List Char) :
    Tile.Tiling (tiles tag content) after := by
  rcases writable.stands with ⟨behind, stands⟩
  rcases writable.tiling with ⟨original, tiling⟩
  refine ⟨Tile.blank_nil, ?_, Tile.tiling_behindTag tiling writable.closed after⟩
  rw [Tile.spelling_behindTag]
  apply stands.replace_of (Lexeme.Continues.newline behind _)
  intro unclosed
  have impossible := unclosed.kind
  rw [writable.language] at impossible
  cases impossible

theorem live_tokenize (writable : Writable tag content) {text : String}
    (spelled : text.toList = Tile.spelling (tiles tag content)) :
    Tree.live (Token.tokenize text) = Token.ofLexeme Source.Position.start tag ::
      Tile.tokens (Source.Position.start.after tag.raw) (Tile.behindTag content) := by
  have parts : text.toList = Tile.spelling (tiles tag content) ++ [] :=
    spelled.trans (List.append_nil _).symm
  rw [Tree.live_tokenize ⟨_, _, parts, writable.tiling_tiles [], Tile.blank_nil⟩]
  rfl

/-- A written segment is one segment. -/
theorem segments (writable : Writable tag content) {text : String}
    (spelled : text.toList = Tile.spelling (tiles tag content)) :
    Segment.ofTokens (Tree.live (Token.tokenize text)) =
      [opening tag (Tile.behindTag content)] := by
  rw [writable.live_tokenize spelled]
  exact ofTokens_tag writable.opens
    (Tile.kind_tokens TokenKind.opensBlock (Tile.unopened_behindTag writable.unopened) _)

theorem toList_body (writable : Writable tag content) {text : String}
    (spelled : text.toList = Tile.spelling (tiles tag content)) :
    ((opening tag (Tile.behindTag content)).body .source text.toList).toList =
      Tile.spelling (Tile.code content) := by
  rcases writable.stands with ⟨behind, stands⟩
  rcases writable.tiling with ⟨original, tiling⟩
  have whole : Tile.spelling (tiles tag content) =
      tag.raw ++ Tile.spelling (Tile.behindTag content) := rfl
  rw [spelled, whole]
  exact toList_body_opening (stands.oneLine_of_opensBlock writable.opens) tiling writable.closed
    writable.few

end Writable

theorem deferred?_of_language {segment : Segment}
    (language : opensLanguage segment.tag = true) : segment.deferred? = none := by
  rw [deferred?, kind_of_opensLanguage language]

end Segment

namespace Tree

/-! ## One block -/

/-- A text that is read as one block in front of every text that opens with a tag. -/
structure Writes (text : String) (block : Block) : Prop where
  joins : ∀ rest, Opens rest → Joins text rest
  opens : Opens text
  blocks : (parse .source text (Token.tokenize text)).blocks.map Block.content = [block.content]
  deferred : (parse .source text (Token.tokenize text)).deferred = []

theorem writes_of_writable {tag : Lexeme} {content : List Tile}
    (writable : Segment.Writable tag content) {source : List Char} {segment : Segment}
    {block : Block} (makes : Segment.Makes .source source segment block)
    (tagText : segment.tag.text = String.ofList tag.text)
    (body : (segment.body .source source).toList = Tile.spelling (Tile.code content))
    {text : String} (spelled : text.toList = Tile.spelling (Segment.Writable.tiles tag content)) :
    Writes text block := by
  have segments := writable.segments spelled
  have language : Segment.opensLanguage (Segment.opening tag (Tile.behindTag content)).tag = true :=
    beq_iff_eq.mpr writable.language
  rcases Segment.block?_of_language .source text.toList language with ⟨again, made, makesAgain⟩
  have lines : Source.WholeLines text.toList := by
    have parts : Tile.spelling (Segment.Writable.tiles tag content) =
        tag.raw ++ '\n' :: Tile.spelling (Tile.code content) ++ ['\n'] := by
      rw [Segment.Writable.tiles, Tile.spelling_cons, Tile.spelling_behindTag]
      simp
    rw [spelled, parts]
    exact Source.wholeLines_append_lineFeed _
  constructor
  case joins =>
    intro rest opens
    exact joins_of_tiling spelled lines (writable.tiling_tiles _) opens
  case opens =>
    rw [Opens, writable.live_tokenize spelled]
    exact Lexeme.stops_cons.mpr (by simp [Token.ofLexeme, writable.opens])
  case blocks =>
    have same : again.content = block.content := by
      apply makes.content_eq makesAgain tagText.symm
      apply String.toList_injective
      rw [writable.toList_body spelled, body]
    simp only [parse]
    rw [segments, List.filterMap_cons_some made, List.map_cons, same]
    rfl
  case deferred =>
    have none := Segment.deferred?_of_language language
    simp only [parse]
    rw [segments, List.filterMap_cons_none none]
    rfl

/-! ## Several blocks -/

/-- Texts that are read as one block each are together read as all of these blocks. -/
theorem parse_join {texts : List String} {blocks : List Block}
    (writes : List.Forall₂ Writes texts blocks) :
    Opens (String.join texts) ∧
      (parse .source (String.join texts) (Token.tokenize (String.join texts))).blocks.map
        Block.content = blocks.map Block.content ∧
      (parse .source (String.join texts) (Token.tokenize (String.join texts))).deferred = [] := by
  induction writes with
  | nil =>
    have none : Token.tokenize (String.join []) =
        [Token.endOfSource Source.Position.start] := Token.streamFrom_nil _
    rw [Opens, none]
    exact ⟨Lexeme.stops_nil _, rfl, rfl⟩
  | @cons text block texts blocks writesFirst _ inductionHypothesis =>
    rcases inductionHypothesis with ⟨opens, same, deferred⟩
    have joins := writesFirst.joins _ opens
    rw [String.join_cons]
    refine ⟨joins.opens_append writesFirst.opens, ?_, ?_⟩
    · rw [joins.contents, writesFirst.blocks, same]
      rfl
    · rw [joins.deferred, writesFirst.deferred, deferred]
      rfl

/-! ## The blocks of a source -/

/-- What a block is written back as. -/
def piece (source : String) (made : Block × Token) : String :=
  String.ofList (made.2.sourceText source.toList) ++ "\n" ++ made.1.body ++ "\n"

/-- The blocks of a source, written back one after the other. -/
def rendering (source : String) : String :=
  String.join ((tagged .source source).map (piece source))

theorem not_unclosed_of_terminated {source : String} (reading : Tile.Reading source.toList)
    (terminated : ∀ token ∈ Token.tokenize source, token.kind = .string →
      token.IsTerminated source.toList) :
    ∀ tile ∈ reading.tiles, ¬Lexeme.Unclosed tile.lexeme := by
  intro tile listed unclosed
  rcases List.append_of_mem listed with ⟨before, after, split⟩
  rcases reading.exists_around split with ⟨parts, _⟩
  have inStream : Token.ofLexeme (Source.Position.start.after (Tile.spelling before ++ tile.gap))
      tile.lexeme ∈ Token.tokenize source := by
    rw [reading.tokenize_eq, split, Tile.tokens_append, Tile.tokens_cons,
      Source.Position.after_append]
    simp
  rcases terminated _ inStream unclosed.kind with ⟨quote, raw, value, quoted, body, closed⟩
  rw [Token.sourceText_ofLexeme parts] at closed
  exact Lexeme.not_unclosed quoted body closed unclosed

/-- Every block of a source whose literals are closed is written back as itself. -/
theorem writes_piece {source : String} (countable : Source.Countable source.toList)
    (terminated : ∀ token ∈ Token.tokenize source, token.kind = .string →
      token.IsTerminated source.toList)
    {made : Block × Token} (listed : made ∈ tagged .source source) :
    Writes (piece source made) made.1 := by
  rcases made with ⟨block, token⟩
  rcases exists_segment_of_mem_tagged listed with ⟨before, after, parts, language, makes⟩
  have kind := Segment.kind_of_opensLanguage language
  rcases Tile.exists_reading source.toList with ⟨reading⟩
  rcases exists_segment_tiles reading parts kind with
    ⟨front, tile, content, others, tiles, tag, tokens, unopened⟩
  obtain rfl : token = _ := tag
  rcases reading.exists_around tiles with ⟨tagParts, stands⟩
  have tiling := reading.tiling
  rw [tiles] at tiling
  have contentTiling := (Tile.tiling_append.mp (Tile.tiling_append.mp tiling).2.2.2).1
  have contentParts : source.toList = Tile.spelling front ++ tile.gap ++ tile.lexeme.raw ++
      (Tile.spelling content ++ (Tile.spelling others ++ reading.gap)) :=
    tagParts.trans (by simp)
  have closed : ∀ other ∈ content, ¬Lexeme.Unclosed other.lexeme := by
    intro other inContent
    apply not_unclosed_of_terminated reading terminated
    rw [tiles]
    simp [inContent]
  have writable : Segment.Writable tile.lexeme content :=
    ⟨⟨_, stands⟩, kind, ⟨_, contentTiling⟩, closed, unopened,
      Segment.few_of_countable (contentParts ▸ countable)⟩
  have written := Segment.written_of_tiling contentParts
    (Segment.begins_behind_tag stands writable.opens (tagParts ▸ countable))
    (UInt32.ofNat_toNat).symm (Segment.near_of_countable (contentParts ▸ countable))
    contentTiling tokens
  have body : block.body.toList = Tile.spelling (Tile.code content) := by
    rw [makes.body]
    exact written.text
  apply writes_of_writable writable makes rfl written.text
  rw [piece, Segment.Writable.tiles, Tile.spelling_cons, Tile.spelling_behindTag]
  simp [body, Token.sourceText_ofLexeme tagParts]

/-- The blocks that are written back are read as the same blocks, and nothing else is read. -/
theorem parse_rendering {source : String} (countable : Source.Countable source.toList)
    (terminated : ∀ token ∈ Token.tokenize source, token.kind = .string →
      token.IsTerminated source.toList) :
    (parse .source (rendering source) (Token.tokenize (rendering source))).deferred = [] ∧
      (parse .source (rendering source) (Token.tokenize (rendering source))).blocks.map
          Block.content =
        (parse .source source (Token.tokenize source)).blocks.map Block.content ∧
      Schema.ofTree (parse .source (rendering source) (Token.tokenize (rendering source))) =
        Schema.ofTree (parse .source source (Token.tokenize source)) := by
  have writes : List.Forall₂ Writes ((tagged .source source).map (piece source))
      ((tagged .source source).map Prod.fst) := by
    apply List.forall₂_map_left_iff.mpr
    apply List.forall₂_map_right_iff.mpr
    apply List.forall₂_same.mpr
    intro made listed
    exact writes_piece countable terminated listed
  rcases parse_join writes with ⟨_, same, deferred⟩
  rw [map_fst_tagged] at same
  exact ⟨deferred, same, Schema.ofTree_congr same⟩

/-- Code on the line of its tag, a tag that makes no block, and a tag without its bracket. -/
theorem parse_rendering_python :
    Source.Countable "PYTHON:: 'é' \n\nWEB::a\nLANGUAGE[\n \"\\\"\"".toList ∧
      (∀ token ∈ Token.tokenize "PYTHON:: 'é' \n\nWEB::a\nLANGUAGE[\n \"\\\"\"",
        token.kind = .string →
          token.IsTerminated "PYTHON:: 'é' \n\nWEB::a\nLANGUAGE[\n \"\\\"\"".toList) ∧
      rendering "PYTHON:: 'é' \n\nWEB::a\nLANGUAGE[\n \"\\\"\"" =
        "PYTHON::\n'é'\n\nLANGUAGE[\n \"\\\"\"\n" ∧
      (parse .source "PYTHON::\n'é'\n\nLANGUAGE[\n \"\\\"\"\n"
        (Token.tokenize "PYTHON::\n'é'\n\nLANGUAGE[\n \"\\\"\"\n")).blocks.map
          Block.content =
        (parse .source "PYTHON:: 'é' \n\nWEB::a\nLANGUAGE[\n \"\\\"\""
          (Token.tokenize "PYTHON:: 'é' \n\nWEB::a\nLANGUAGE[\n \"\\\"\"")).blocks.map
            Block.content := by
  have countable : Source.Countable
      "PYTHON:: 'é' \n\nWEB::a\nLANGUAGE[\n \"\\\"\"".toList :=
    Source.countable_of_length (by decide)
  have strings : ∀ token ∈ Token.tokenize "PYTHON:: 'é' \n\nWEB::a\nLANGUAGE[\n \"\\\"\"",
      token.kind = .string → token = ⟨.string, "é", ⟨1, 10⟩, ⟨9, 13⟩⟩ ∨
        token = ⟨.string, "\"", ⟨5, 2⟩, ⟨34, 38⟩⟩ := by
    decide +kernel
  have terminated : ∀ token ∈ Token.tokenize "PYTHON:: 'é' \n\nWEB::a\nLANGUAGE[\n \"\\\"\"",
      token.kind = .string →
        token.IsTerminated "PYTHON:: 'é' \n\nWEB::a\nLANGUAGE[\n \"\\\"\"".toList := by
    intro token listed kind
    rcases strings token listed kind with rfl | rfl
    · exact ⟨'\'', ['é'], ['é'], Or.inr rfl, .plain (by decide) (by decide) .nil,
        by decide +kernel⟩
    · exact ⟨'"', ['\\', '"'], ['"'], Or.inl rfl, .escaped .nil, by decide +kernel⟩
  have written : rendering "PYTHON:: 'é' \n\nWEB::a\nLANGUAGE[\n \"\\\"\"" =
      "PYTHON::\n'é'\n\nLANGUAGE[\n \"\\\"\"\n" := by
    decide +kernel
  have blocks := (parse_rendering countable terminated).2.1
  rw [written] at blocks
  exact ⟨countable, terminated, written, blocks⟩

end Tree
end Ritual
