import Ritual.Proofs.Analysis.Gate
import Ritual.Proofs.Segment.LineEndings
import Ritual.Proofs.Tree.Rendering

namespace Ritual

/-!
# The two kinds of line ending

A text and the same text with a carriage return before every line feed succeed or fail
together, with one report.  If they succeed, their documents are the same up to the
carriage returns in the code; and the code has some exactly where a line of it ends in a
comment that does not end the text.
-/

/-! ## Texts without carriage returns -/

/-- A block without the carriage returns of its body. -/
def Block.withoutReturns (block : Block) : Block :=
  { block with body := Source.withoutReturns block.body }

/-- A block of a document without the carriage returns of its code. -/
def SchemaBlock.withoutReturns (block : SchemaBlock) : SchemaBlock :=
  { block with code := Source.withoutReturns block.code }

/-- A document without the carriage returns of its code. -/
def Schema.withoutReturns (schema : Schema) : Schema :=
  { schema with blocks := schema.blocks.map SchemaBlock.withoutReturns }

namespace Schema

theorem withoutReturns_ofTree (tree : Tree) :
    (ofTree tree).withoutReturns =
      ⟨currentVersion, numbered 0 (tree.blocks.map Block.withoutReturns)⟩ :=
  (congrArg (Schema.mk currentVersion)
    (numbered_map_body Source.withoutReturns 0 tree.blocks)).symm

theorem numbered_withoutReturns_eq_self (start : Nat) (blocks : List Block) :
    (numbered start blocks).map SchemaBlock.withoutReturns = numbered start blocks ↔
      ∀ block ∈ blocks, '\r' ∉ block.body.toList := by
  induction blocks generalizing start with
  | nil => simp [numbered]
  | cons block rest inductionHypothesis =>
    rw [numbered, List.map_cons, List.cons.injEq, inductionHypothesis, List.forall_mem_cons]
    simp [SchemaBlock.withoutReturns, Source.withoutReturns_eq_self]

theorem withoutReturns_eq_self (tree : Tree) :
    (ofTree tree).withoutReturns = ofTree tree ↔
      ∀ block ∈ tree.blocks, '\r' ∉ block.body.toList := by
  rw [← numbered_withoutReturns_eq_self 0]
  simp [ofTree, withoutReturns]

end Schema

/-! ## Two texts with the same lines -/

namespace Token.Returned

variable {original again : Token}

theorem text_eq (related : Returned original again) (noComment : original.kind.isComment = false)
    (noTag : original.kind.opensBlock = false) : again.text = original.text := by
  rcases related.text with same | ⟨takes, _⟩
  · exact same
  · rcases takes with comment | tag
    · rw [comment] at noComment
      cases noComment
    · rw [tag] at noTag
      cases noTag

theorem ofTag?_eq (related : Returned original again) :
    Language.ofTag? again.text = Language.ofTag? original.text := by
  rcases related.text with same | ⟨_, same⟩
  · rw [same]
  · rw [same, Language.ofTag?_append_return]

/-- A token fails its check as the same token with its returns does. -/
theorem checkToken_eq (related : Returned original again) (rules : CanonRules) :
    Analysis.checkToken rules again = Analysis.checkToken rules original := by
  unfold Analysis.checkToken Invocation.ofToken?
  by_cases invocation : original.kind = .schoolInvocation
  · have place := related.location (by simp [invocation])
    have text := related.text_eq (by rw [invocation]; rfl) (by rw [invocation]; rfl)
    rw [related.kind, place, text]
  · rw [related.kind, if_neg invocation, if_neg invocation]

end Token.Returned

namespace Segment.Returned

variable {source again : List Char} {segment segmentAgain : Segment}

theorem block?_eq (related : Returned source again segment segmentAgain) :
    (segmentAgain.block? .source again).map Block.withoutReturns =
      segment.block? .source source := by
  unfold block?
  rw [related.tag.kind]
  by_cases language : segment.tag.kind = .languageParam
  · have place := related.tag.location (by simp [language])
    rw [if_pos language, if_pos language, related.tag.ofTag?_eq, place]
    simp only [Option.map_some, Block.withoutReturns, related.withoutReturns_body]
  · rw [if_neg language, if_neg language, Option.map_none]

theorem not_mem_block? (related : Returned source again segment segmentAgain) :
    (∀ block ∈ segmentAgain.block? .source again, '\r' ∉ block.body.toList) ↔
      (segment.tag.kind = .languageParam →
        ∀ line ∈ segment.lines, Line.endsInComment source line = false) := by
  unfold block?
  rw [related.tag.kind, ← related.not_mem_body]
  by_cases language : segment.tag.kind = .languageParam
  · rw [if_pos language, forall_prop_of_true language]
    simp
  · rw [if_neg language]
    simp [language]

end Segment.Returned

section Readings

variable {source : String}

/-- A source and the source with its returns are tiled alike, if no literal holds a line feed. -/
theorem Tile.exists_readings (literals : ∀ token ∈ Token.tokenize source, token.kind = .string →
      '\n' ∉ token.sourceText source.toList) :
    ∃ (reading : Tile.Reading source.toList)
      (readingAgain : Tile.Reading (Source.returned source).toList),
      Tile.Returned reading.gap reading.tiles readingAgain.tiles := by
  rcases Tile.exists_reading source.toList with ⟨reading⟩
  have closed : ∀ tile ∈ reading.tiles, tile.lexeme.kind = .string →
      '\n' ∉ tile.lexeme.raw := by
    intro tile listed literal
    rcases List.append_of_mem listed with ⟨before, after, split⟩
    have parts := (reading.exists_around split).1
    rw [← Token.sourceText_ofLexeme parts]
    apply literals _ _ literal
    rw [reading.tokenize_eq, split, Tile.tokens_append, Tile.tokens_cons,
      Source.Position.after_append]
    exact List.mem_append_left _ (List.mem_append_right _ List.mem_cons_self)
  rcases Tile.exists_returned reading.tiling reading.blank closed with
    ⟨again, related, tiling, spelled⟩
  have whole : (Source.returned source).toList = Tile.spelling again ++ reading.gap := by
    rw [Source.toList_returned, spelled, ← reading.spelled]
  exact ⟨reading, ⟨again, reading.gap, whole, tiling, reading.blank⟩, related⟩

variable (literals : ∀ token ∈ Token.tokenize source, token.kind = .string →
  '\n' ∉ token.sourceText source.toList)
include literals

theorem Token.tokenize_returned :
    List.Forall₂ Token.Returned (Token.tokenize source)
      (Token.tokenize (Source.returned source)) := by
  rcases Tile.exists_readings literals with ⟨reading, readingAgain, related⟩
  have place := Source.Position.location_after_withReturns source.toList
  rw [← Source.toList_returned] at place
  rw [reading.tokenize_eq, readingAgain.tokenize_eq]
  exact List.rel_append (related.tokens []) (.cons (Token.returned_endOfSource place) .nil)

theorem Tree.segments_returned (noReturn : '\r' ∉ source.toList) :
    List.Forall₂ (Segment.Returned source.toList (Source.returned source).toList)
      (Segment.ofTokens (Tree.live (Token.tokenize source)))
      (Segment.ofTokens (Tree.live (Token.tokenize (Source.returned source)))) := by
  rcases Tile.exists_readings literals with ⟨reading, readingAgain, related⟩
  rw [Tree.live_tokenize reading, Tree.live_tokenize readingAgain]
  have parts : source.toList = [] ++ (Tile.spelling reading.tiles ++ reading.gap) :=
    reading.spelled
  have againParts : (Source.returned source).toList = Source.withReturns [] ++
      (Tile.spelling readingAgain.tiles ++ readingAgain.gap) := readingAgain.spelled
  exact Segment.segments_returned related noReturn parts againParts

theorem Tree.blocks_returned (noReturn : '\r' ∉ source.toList) :
    (Tree.parse .source (Source.returned source)
      (Token.tokenize (Source.returned source))).blocks.map Block.withoutReturns =
        (Tree.parse .source source (Token.tokenize source)).blocks := by
  rw [Tree.parse, List.map_filterMap]
  exact (filterMap_eq_of_forall₂ (Tree.segments_returned literals noReturn)
    fun _ _ segment => segment.block?_eq.symm).symm

theorem Analysis.violations_returned (noReturn : '\r' ∉ source.toList) (rules : CanonRules) :
    violations rules (Tree.parse .source (Source.returned source)
        (Token.tokenize (Source.returned source))).blocks
        (Token.tokenize (Source.returned source)) =
      violations rules (Tree.parse .source source (Token.tokenize source)).blocks
        (Token.tokenize source) := by
  have tokens := filterMap_eq_of_forall₂ (Token.tokenize_returned literals)
    fun _ _ token => (token.checkToken_eq rules).symm
  have unread : checkBlock rules ∘ Block.withoutReturns = checkBlock rules := rfl
  rw [violations, violations, filterMap_ofTokens, filterMap_ofTokens, tokens,
    ← Tree.blocks_returned literals noReturn, List.filterMap_map, unread]

/-- No block has a return left exactly if no line of a body ends in a comment. -/
theorem Tree.not_mem_bodies (noReturn : '\r' ∉ source.toList) :
    (∀ block ∈ (Tree.parse .source (Source.returned source)
        (Token.tokenize (Source.returned source))).blocks, '\r' ∉ block.body.toList) ↔
      ∀ segment ∈ Segment.ofTokens (Tree.live (Token.tokenize source)),
        segment.tag.kind = .languageParam →
          ∀ line ∈ segment.lines, Line.endsInComment source.toList line = false := by
  rw [forall_mem_iff_of_forall₂ (Tree.segments_returned literals noReturn)
    fun _ _ segment => segment.not_mem_block?.symm]
  simp only [Tree.parse, List.mem_filterMap, forall_exists_index, and_imp]
  exact ⟨fun free segment listed block made => free block segment listed made,
    fun free block segment listed made => free segment listed block made⟩

end Readings

namespace Compilation

/-- Both texts fail with one error, or both compile. -/
theorem compileSource_returned_cases {source : String} (noReturn : '\r' ∉ source.toList)
    (literals : ∀ token ∈ Token.tokenize source, token.kind = .string →
      '\n' ∉ token.sourceText source.toList) (canon : Option CanonRules) :
    (∃ failure, compileSource canon .source (Source.returned source) = .error failure ∧
        compileSource canon .source source = .error failure) ∨
      compileSource canon .source (Source.returned source) = .ok (Schema.ofTree
          (Tree.parse .source (Source.returned source)
            (Token.tokenize (Source.returned source)))) ∧
        compileSource canon .source source =
          .ok (Schema.ofTree (Tree.parse .source source (Token.tokenize source))) := by
  cases canon with
  | none => exact Or.inr ⟨rfl, rfl⟩
  | some rules =>
    rw [compileSource_some, compileSource_some,
      Analysis.violations_returned literals noReturn rules]
    cases Analysis.violations rules (Tree.parse .source source (Token.tokenize source)).blocks
      (Token.tokenize source) with
    | nil => exact Or.inr ⟨rfl, rfl⟩
    | cons violation others => exact Or.inl ⟨_, rfl, rfl⟩

/-- The kind of line ending changes neither whether a text compiles nor the report.  It changes
the code by the carriage returns only, and exactly where a line of it ends in a comment that
does not end the text. -/
theorem compileSource_returned {source : String} (noReturn : '\r' ∉ source.toList)
    (literals : ∀ token ∈ Token.tokenize source, token.kind = .string →
      '\n' ∉ token.sourceText source.toList) (canon : Option CanonRules) :
    (compileSource canon .source (Source.returned source)).map Schema.withoutReturns =
        compileSource canon .source source ∧
      (compileSource canon .source (Source.returned source) = compileSource canon .source source ↔
        ∀ schema, compileSource canon .source source = .ok schema →
          ∀ segment ∈ Segment.ofTokens (Tree.live (Token.tokenize source)),
            segment.tag.kind = .languageParam →
              ∀ line ∈ segment.lines, Line.endsInComment source.toList line = false) := by
  rcases compileSource_returned_cases noReturn literals canon with
    ⟨failure, failsAgain, fails⟩ | ⟨compilesAgain, compiles⟩
  · rw [failsAgain, fails]
    refine ⟨rfl, iff_of_true rfl ?_⟩
    intro schema impossible
    cases impossible
  · have erased : (Schema.ofTree (Tree.parse .source (Source.returned source)
        (Token.tokenize (Source.returned source)))).withoutReturns =
          Schema.ofTree (Tree.parse .source source (Token.tokenize source)) := by
      rw [Schema.withoutReturns_ofTree, Tree.blocks_returned literals noReturn]
      rfl
    rw [compilesAgain, compiles, Except.map, erased]
    refine ⟨rfl, ?_⟩
    rw [Except.ok.injEq, ← Tree.not_mem_bodies literals noReturn,
      ← Schema.withoutReturns_eq_self, erased]
    simp only [Except.ok.injEq, forall_eq']
    exact eq_comm

/-- A tag that lacks its bracket takes a return, which is never seen again; so does the comment
behind a literal, which keeps it; and the last comment ends the text. -/
theorem compileSource_returned_unclosed :
    let source := "LANGUAGE[lang='js'\n\n'\\n' // é\n  b // c"
    '\r' ∉ source.toList ∧
      (∀ token ∈ Token.tokenize source, token.kind = .string →
        '\n' ∉ token.sourceText source.toList) ∧
      (compileSource (some CanonRules.empty) .source (Source.returned source)).map
          Schema.withoutReturns = .ok ⟨"1.0", [⟨0, .js, "'\\n' // é\n  b // c", []⟩]⟩ ∧
      compileSource (some CanonRules.empty) .source (Source.returned source) ≠
        compileSource (some CanonRules.empty) .source source := by
  intro source
  have noReturn : '\r' ∉ source.toList := by simp [source]
  have literals : ∀ token ∈ Token.tokenize source, token.kind = .string →
      '\n' ∉ token.sourceText source.toList := by
    decide +kernel
  have compiles : compileSource (some CanonRules.empty) .source source =
      .ok ⟨"1.0", [⟨0, .js, "'\\n' // é\n  b // c", []⟩]⟩ := by
    decide +kernel
  have commented : ∃ segment ∈ Segment.ofTokens (Tree.live (Token.tokenize source)),
      segment.tag.kind = .languageParam ∧
        ∃ line ∈ segment.lines, Line.endsInComment source.toList line = true := by
    decide +kernel
  rcases compileSource_returned noReturn literals (some CanonRules.empty) with ⟨erased, same⟩
  rw [compiles] at erased
  refine ⟨noReturn, literals, erased, ?_⟩
  rw [Ne, same]
  intro free
  rcases commented with ⟨segment, listed, language, line, inSegment, ends⟩
  rw [free _ compiles segment listed language line inSegment] at ends
  cases ends

/-- A comment before a line feed keeps its return in the code. -/
theorem line_endings_matter :
    ¬ ∀ (source : String) (canon : Option CanonRules), '\r' ∉ source.toList →
      (∀ token ∈ Token.tokenize source, token.kind = .string →
        '\n' ∉ token.sourceText source.toList) →
      compileSource canon .source (Source.returned source) =
        compileSource canon .source source := by
  intro same
  have equal := same "PYTHON::\nx // c\ny" (some CanonRules.empty) (by decide) (by decide +kernel)
  revert equal
  decide +kernel

end Compilation
end Ritual
