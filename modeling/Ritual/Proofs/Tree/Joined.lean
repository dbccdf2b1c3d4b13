import Mathlib.Data.List.Basic
import Ritual.Proofs.Segment.Behind
import Ritual.Proofs.Token.Coverage
import Ritual.Proofs.Tree.Blocks

namespace Ritual

/-!
# Texts that are read one after the other

A text is read in front of another one if it consists of whole lines and if its last
lexeme does not run on into the other text.  If the other text then begins with a tag,
it leaves the last segment of the first one alone, and the tree of both together has
the blocks of the first and then those of the second, moved down by the lines of the
first.
-/

namespace Tree

/-- Whether a text begins with a tag, or has no tokens. -/
def Opens (text : String) : Prop :=
  Lexeme.Stops (fun token => !token.kind.opensBlock) (live (Token.tokenize text))

/-- A text that is read on its own in front of another one, which opens with a tag. -/
structure Joins (first second : String) : Prop where
  lines : Source.WholeLines first.toList
  tokens : live (Token.tokenize (first ++ second)) = live (Token.tokenize first) ++
    (live (Token.tokenize second)).map (Token.behind first.toList)
  opens : Opens second

/-- A text whose tiles stand in front of another text is read on its own. -/
theorem joins_of_tiling {first second : String} {tiles : List Tile}
    (spelled : first.toList = Tile.spelling tiles) (lines : Source.WholeLines first.toList)
    (tiling : Tile.Tiling tiles second.toList)
    (opens : Opens second) :
    Joins first second := by
  refine ⟨lines, ?_, opens⟩
  rcases Tile.exists_reading second.toList with ⟨reading⟩
  have alone : Tile.Tiling tiles [] := Tile.tiling_replace tiling (Lexeme.MayFollow.nil _)
  have both : Tile.Tiling (tiles ++ reading.tiles) reading.gap := by
    apply Tile.tiling_append.mpr
    rw [← reading.spelled]
    exact ⟨tiling, reading.tiling⟩
  have whole : (first ++ second).toList =
      Tile.spelling (tiles ++ reading.tiles) ++ reading.gap := by
    rw [String.toList_append, Tile.spelling_append, List.append_assoc, ← spelled,
      ← reading.spelled]
  have place : Source.Position.start.after (Tile.spelling tiles) =
      Source.Position.start.behind first.toList := by
    rw [← spelled]
    exact Source.Position.start_after_lines lines
  have firstSpelled : first.toList = Tile.spelling tiles ++ [] :=
    spelled.trans (List.append_nil _).symm
  rw [live_tokenize ⟨_, _, whole, both, reading.blank⟩,
    live_tokenize ⟨_, _, firstSpelled, alone, Tile.blank_nil⟩, live_tokenize reading,
    Tile.tokens_append, place, Tile.tokens_behind]

/-- The contents of a source's segments lie in the source. -/
theorem within_of_mem_segments {source : String} {segment : Segment}
    (listed : segment ∈ Segment.ofTokens (live (Token.tokenize source))) :
    Line.Within source.toList segment.content := by
  intro token inContent
  have live := (Segment.infix_of_mem_ofTokens listed).1.subset inContent
  have inSource := Token.inSource_of_tokenize ((List.takeWhile_sublist _).subset live)
  exact ⟨inSource.start, inSource.stop⟩

namespace Joins

variable {first second : String}

/-- The tokens of the second text still begin with a tag. -/
theorem opens_behind (joins : Joins first second) :
    Lexeme.Stops (fun token => !token.kind.opensBlock)
      ((Tree.live (Token.tokenize second)).map (Token.behind first.toList)) := by
  intro token found
  rw [List.head?_map] at found
  rcases Option.map_eq_some_iff.mp found with ⟨original, head, rfl⟩
  exact joins.opens original head

theorem opens_append (joins : Joins first second) (opens : Opens first) :
    Opens (first ++ second) := by
  rw [Opens, joins.tokens]
  exact Lexeme.Stops.append opens joins.opens_behind

theorem segments (joins : Joins first second) :
    Segment.ofTokens (Tree.live (Token.tokenize (first ++ second))) =
      Segment.ofTokens (Tree.live (Token.tokenize first)) ++
        (Segment.ofTokens (Tree.live (Token.tokenize second))).map
          (Segment.behind first.toList) := by
  rw [joins.tokens, Segment.ofTokens_append _ joins.opens_behind, Segment.ofTokens_behind]

/-- The blocks of two texts are those of the first and those of the second. -/
theorem blocks (joins : Joins first second) (mode : Line.Reconstruction) :
    (parse mode (first ++ second) (Token.tokenize (first ++ second))).blocks =
      (parse mode first (Token.tokenize first)).blocks ++
        (parse mode second (Token.tokenize second)).blocks.map (Block.behind first.toList) := by
  -- the first text stands behind nothing, and nothing stands behind the second
  have unmoved : Block.behind [] = id := by
    funext block
    exact Block.behind_nil block
  have front : (Segment.ofTokens (live (Token.tokenize first))).filterMap
        (Segment.block? mode (first ++ second).toList) =
      (Segment.ofTokens (live (Token.tokenize first))).filterMap
        (Segment.block? mode first.toList) := by
    apply List.filterMap_congr
    intro segment listed
    have around := Segment.block?_around mode Source.wholeLines_nil second.toList
      (within_of_mem_segments listed)
    rw [List.nil_append, ← String.toList_append, Segment.behind_nil, unmoved, Option.map_id]
      at around
    exact around
  have back : (Segment.ofTokens (live (Token.tokenize second))).filterMap
        (Segment.block? mode (first ++ second).toList ∘ Segment.behind first.toList) =
      (Segment.ofTokens (live (Token.tokenize second))).filterMap
        fun segment => (segment.block? mode second.toList).map (Block.behind first.toList) := by
    apply List.filterMap_congr
    intro segment listed
    have around := Segment.block?_around mode joins.lines [] (within_of_mem_segments listed)
    rw [List.append_nil, ← String.toList_append] at around
    exact around
  simp only [parse]
  rw [joins.segments, List.filterMap_append, List.filterMap_map, List.map_filterMap, front, back]

/-- The blocks of two texts say what those of the first and those of the second say. -/
theorem contents (joins : Joins first second) (mode : Line.Reconstruction) :
    (parse mode (first ++ second) (Token.tokenize (first ++ second))).blocks.map Block.content =
      (parse mode first (Token.tokenize first)).blocks.map Block.content ++
        (parse mode second (Token.tokenize second)).blocks.map Block.content := by
  have unmoved : Block.content ∘ Block.behind first.toList = Block.content := rfl
  rw [joins.blocks, List.map_append, List.map_map, unmoved]

/-- The notes of two texts are those of the first and those of the second. -/
theorem deferred (joins : Joins first second) (mode : Line.Reconstruction) :
    (parse mode (first ++ second) (Token.tokenize (first ++ second))).deferred =
      (parse mode first (Token.tokenize first)).deferred ++
        (parse mode second (Token.tokenize second)).deferred.map
          (DeferredTag.behind first.toList) := by
  simp only [parse]
  rw [joins.segments, List.filterMap_append, List.filterMap_map, List.map_filterMap]
  apply congrArg (_ ++ ·)
  apply List.filterMap_congr
  intro segment _
  exact Segment.deferred?_behind first.toList segment

end Joins
end Tree
end Ritual
