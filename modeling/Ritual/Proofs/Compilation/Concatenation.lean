import Ritual.Proofs.Analysis.Gate
import Ritual.Proofs.Token.Local
import Ritual.Proofs.Tree.Joined

namespace Ritual

/-!
# Compiling two texts at once

If the line feed between two texts ends a line, and is not inside a literal, and if the
second text begins with a tag, then both together compile exactly if each of them does.
The document then has the blocks of the first text and those of the second, numbered
anew.  Nothing else about a block depends on where its text stands, and what fails its
check does so wherever it stands.
-/

namespace Schema

/-- One document with the blocks of two, numbered anew. -/
def append (left right : Schema) : Schema :=
  ⟨left.version, (left.blocks ++ right.blocks).mapIdx fun index block =>
    { block with index := index }⟩

/-- Two texts that are read one after the other give the blocks of both. -/
theorem ofTree_append {first second : String} (joins : Tree.Joins first second)
    (mode : Line.Reconstruction) :
    ofTree (Tree.parse mode (first ++ second) (Token.tokenize (first ++ second))) =
      (ofTree (Tree.parse mode first (Token.tokenize first))).append
        (ofTree (Tree.parse mode second (Token.tokenize second))) := by
  simp only [ofTree, append, numbered_eq_mapIdx, joins.contents, List.mapIdx_append,
    List.mapIdx_mapIdx, List.length_mapIdx, Nat.zero_add]
  rfl

end Schema

namespace Analysis

/-! ## What fails does so wherever it stands -/

theorem isSome_checkInvocation (rules : CanonRules) (invocation : Invocation)
    (location : Source.Location) :
    (checkInvocation rules { invocation with location := location }).isSome =
      (checkInvocation rules invocation).isSome := by
  unfold checkInvocation
  simp only
  split
  · rfl
  · split
    · rfl
    · split
      · split <;> rfl
      · rfl

theorem failsToken_behind (rules : CanonRules) (left : List Char) (token : Token) :
    failsToken rules (token.behind left) = failsToken rules token := by
  unfold failsToken checkToken Invocation.ofToken?
  by_cases invocation : token.kind = .schoolInvocation
  · have moved : (token.behind left).kind = .schoolInvocation := invocation
    rw [if_pos moved, if_pos invocation, Token.behind_text]
    cases Invocation.names? token.text.toList with
    | none => rfl
    | some names => exact isSome_checkInvocation rules ⟨names.1, names.2, token.location⟩ _
  · have moved : (token.behind left).kind ≠ .schoolInvocation := invocation
    rw [if_neg moved, if_neg invocation]

theorem failsBlock_behind (rules : CanonRules) (left : List Char) (block : Block) :
    failsBlock rules (block.behind left) = failsBlock rules block := by
  have kind : (block.behind left).kind = block.kind := rfl
  unfold failsBlock checkBlock
  rw [kind]
  simp only
  split <;> rfl

/-- Whether nothing of a text fails its check; without rules nothing is checked. -/
def Passes (canon : Option CanonRules) (mode : Line.Reconstruction) (source : String) : Prop :=
  ∀ rules ∈ canon,
    (∀ token ∈ Tree.live (Token.tokenize source), failsToken rules token = false) ∧
      ∀ block ∈ (Tree.parse mode source (Token.tokenize source)).blocks,
        failsBlock rules block = false

/-- The end of a source fails no check. -/
theorem failsToken_live (rules : CanonRules) (source : String) :
    (∃ token ∈ Token.tokenize source, failsToken rules token = true) ↔
      ∃ token ∈ Tree.live (Token.tokenize source), failsToken rules token = true := by
  rcases Tile.exists_reading source.toList with ⟨reading⟩
  rw [Tree.live_tokenize reading, reading.tokenize_eq]
  constructor
  · rintro ⟨token, listed, fails⟩
    rcases List.mem_append.mp listed with inTiles | isEnding
    · exact ⟨token, inTiles, fails⟩
    · rw [List.mem_singleton.mp isEnding] at fails
      cases fails
  · rintro ⟨token, listed, fails⟩
    exact ⟨token, List.mem_append_left _ listed, fails⟩

theorem passes_some (rules : CanonRules) (mode : Line.Reconstruction) (source : String) :
    Passes (some rules) mode source ↔
      violations rules (Tree.parse mode source (Token.tokenize source)).blocks
        (Token.tokenize source) = [] := by
  have fails := violations_ne_nil rules (Tree.parse mode source (Token.tokenize source)).blocks
    (Token.tokenize source)
  rw [failsToken_live] at fails
  apply not_iff_not.mp
  rw [← Ne, fails]
  simp only [Passes, Option.mem_some_iff, forall_eq', not_and_or, not_forall, exists_prop,
    Bool.not_eq_false]

/-- Two texts that are read one after the other pass if each of them does. -/
theorem passes_append {first second : String} (joins : Tree.Joins first second)
    (canon : Option CanonRules) (mode : Line.Reconstruction) :
    Passes canon mode (first ++ second) ↔
      Passes canon mode first ∧ Passes canon mode second := by
  simp only [Passes, joins.tokens, joins.blocks, List.forall_mem_append, List.forall_mem_map,
    failsToken_behind, failsBlock_behind]
  constructor
  · intro passes
    constructor
    · intro rules given
      exact ⟨(passes rules given).1.1, (passes rules given).2.1⟩
    · intro rules given
      exact ⟨(passes rules given).1.2, (passes rules given).2.2⟩
  · rintro ⟨firstPasses, secondPasses⟩ rules given
    exact ⟨⟨(firstPasses rules given).1, (secondPasses rules given).1⟩,
      (firstPasses rules given).2, (secondPasses rules given).2⟩

end Analysis

namespace Compilation

theorem compileSource_eq_ok_iff (canon : Option CanonRules) (mode : Line.Reconstruction)
    (source : String) (schema : Schema) :
    compileSource canon mode source = .ok schema ↔ Analysis.Passes canon mode source ∧
      schema = Schema.ofTree (Tree.parse mode source (Token.tokenize source)) := by
  cases canon with
  | none =>
    have passes : Analysis.Passes none mode source := by
      intro rules impossible
      cases impossible
    have compiled : compileSource none mode source =
        .ok (Schema.ofTree (Tree.parse mode source (Token.tokenize source))) := rfl
    rw [compiled, Except.ok.injEq]
    exact ⟨fun same => ⟨passes, same.symm⟩, fun both => both.2.symm⟩
  | some rules =>
    rw [compileSource_some, Analysis.passes_some]
    split
    · rename_i none
      rw [Except.ok.injEq]
      exact ⟨fun same => ⟨none, same.symm⟩, fun both => both.2.symm⟩
    · rename_i found
      constructor
      · intro impossible
        cases impossible
      · rintro ⟨none, _⟩
        exact absurd none (by simpa using found)

/-- A line feed between two texts that is read as the end of a line parts the tiles. -/
theorem exists_tiles_of_newline {first second : String}
    (reading : Tile.Reading (first ++ "\n" ++ second).toList) {newline : Token}
    (listed : newline ∈ Token.tokenize (first ++ "\n" ++ second))
    (kind : newline.kind = .newline) (start : newline.span.start = first.utf8ByteSize) :
    ∃ front back, reading.tiles = front ++ back ∧
      (first ++ "\n").toList = Tile.spelling front ∧
      second.toList = Tile.spelling back ++ reading.gap := by
  have parts : (first ++ "\n" ++ second).toList = first.toList ++ '\n' :: second.toList := by simp
  rw [← Source.byteLength_toList] at start
  rcases reading.exists_parted parts listed kind start with
    ⟨before, tile, after, split, raw, _, front, back⟩
  refine ⟨before ++ [tile], after, ?_, ?_, back⟩
  · rw [split, List.append_assoc, List.singleton_append]
  · rw [String.toList_append, front, Tile.spelling_append, Tile.spelling_cons, raw]
    simp

/-- Texts that such a line feed parts are read one after the other, if the second one begins
with a tag. -/
theorem joins_of_newline {first second : String} {newline : Token}
    (listed : newline ∈ Token.tokenize (first ++ "\n" ++ second))
    (kind : newline.kind = .newline) (start : newline.span.start = first.utf8ByteSize)
    (opens : ∃ tag, (Token.tokenize second).head? = some tag ∧ tag.kind.opensBlock = true) :
    Tree.Joins (first ++ "\n") second := by
  rcases Tile.exists_reading (first ++ "\n" ++ second).toList with ⟨reading⟩
  rcases exists_tiles_of_newline reading listed kind start with
    ⟨front, back, split, spelled, behind⟩
  have tiling := reading.tiling
  rw [split] at tiling
  apply Tree.joins_of_tiling spelled
  · rw [String.toList_append]
    exact Source.wholeLines_append_lineFeed first.toList
  · rw [behind]
    exact (Tile.tiling_append.mp tiling).1
  · rcases opens with ⟨tag, head, isTag⟩
    intro token found
    rw [Tree.live, List.head?_takeWhile, head] at found
    obtain rfl := Option.some.inj (Option.filter_eq_some_iff.mp found).1
    simp [isTag]

/-- Two texts that a line end parts compile together exactly if both compile, and they
give the blocks of both. -/
theorem compileSource_append {first second : String}
    (parted : ∃ newline ∈ Token.tokenize (first ++ "\n" ++ second), newline.kind = .newline ∧
      newline.span = ⟨first.utf8ByteSize, first.utf8ByteSize + 1⟩)
    (opens : ∃ tag, (Token.tokenize second).head? = some tag ∧ tag.kind.opensBlock = true)
    (canon : Option CanonRules) (mode : Line.Reconstruction) (schema : Schema) :
    compileSource canon mode (first ++ "\n" ++ second) = .ok schema ↔
      ∃ left right, compileSource canon mode (first ++ "\n") = .ok left ∧
        compileSource canon mode second = .ok right ∧ schema = left.append right := by
  rcases parted with ⟨newline, listed, kind, span⟩
  have start : newline.span.start = first.utf8ByteSize := by rw [span]
  have joins := joins_of_newline listed kind start opens
  simp only [compileSource_eq_ok_iff]
  rw [Analysis.passes_append joins, Schema.ofTree_append joins]
  constructor
  · rintro ⟨⟨firstPasses, secondPasses⟩, rfl⟩
    exact ⟨_, _, ⟨firstPasses, rfl⟩, ⟨secondPasses, rfl⟩, rfl⟩
  · rintro ⟨left, right, ⟨firstPasses, rfl⟩, ⟨secondPasses, rfl⟩, rfl⟩
    exact ⟨⟨firstPasses, secondPasses⟩, rfl⟩

/-- The last line of the first text shares the line of its tag, and that of the second
text has an indentation. -/
theorem compileSource_append_shared :
    (∃ newline ∈ Token.tokenize ("PYTHON:: 'é'" ++ "\n" ++ "JS::\n  b\n"),
        newline.kind = .newline ∧
          newline.span = ⟨"PYTHON:: 'é'".utf8ByteSize, "PYTHON:: 'é'".utf8ByteSize + 1⟩) ∧
      (∃ tag, (Token.tokenize "JS::\n  b\n").head? = some tag ∧ tag.kind.opensBlock = true) ∧
      compileSource (some CanonRules.empty) .source ("PYTHON:: 'é'" ++ "\n" ++ "JS::\n  b\n") =
        .ok ⟨"1.0", [⟨0, .python, "'é'", []⟩, ⟨1, .js, "  b", []⟩]⟩ := by
  have parted : ∃ newline ∈ Token.tokenize ("PYTHON:: 'é'" ++ "\n" ++ "JS::\n  b\n"),
      newline.kind = .newline ∧
        newline.span = ⟨"PYTHON:: 'é'".utf8ByteSize, "PYTHON:: 'é'".utf8ByteSize + 1⟩ := by
    decide +kernel
  have opens : ∃ tag, (Token.tokenize "JS::\n  b\n").head? = some tag ∧
      tag.kind.opensBlock = true :=
    ⟨⟨.languageParam, "JS::", ⟨1, 1⟩, ⟨0, 4⟩⟩, by decide +kernel, rfl⟩
  have left : compileSource (some CanonRules.empty) .source ("PYTHON:: 'é'" ++ "\n") =
      .ok ⟨"1.0", [⟨0, .python, "'é'", []⟩]⟩ := by
    decide +kernel
  have right : compileSource (some CanonRules.empty) .source "JS::\n  b\n" =
      .ok ⟨"1.0", [⟨0, .js, "  b", []⟩]⟩ := by
    decide +kernel
  refine ⟨parted, opens, ?_⟩
  apply (compileSource_append parted opens (some CanonRules.empty) .source _).mpr
  exact ⟨_, _, left, right, by decide⟩

end Compilation
end Ritual
