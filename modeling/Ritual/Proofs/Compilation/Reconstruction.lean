import Ritual.Proofs.Analysis.Gate
import Ritual.Proofs.Collections
import Ritual.Proofs.Tree.Segmentation

namespace Ritual

/-!
# How lines are written out decides nothing but code

A line of a body is cut from the source or joined from the texts of its tokens, and
cutting falls back to joining where the tokens do not point into the source.  Nothing
else looks at the way that was chosen: the tree without its bodies is read from the tags
alone, the check does not look at bodies, and the document without its code is numbered
from the tree without its bodies.  Nothing is assumed of the tokens of a tree.
-/

/-! ## What is left without bodies -/

/-- A tree without the bodies of its blocks. -/
def Tree.frame (tree : Tree) : Tree :=
  { tree with blocks := tree.blocks.map Block.frame }

/-- A block of a document without its code. -/
def SchemaBlock.frame (block : SchemaBlock) : SchemaBlock :=
  { block with code := "" }

/-- A document without the code of its blocks. -/
def Schema.frame (schema : Schema) : Schema :=
  { schema with blocks := schema.blocks.map SchemaBlock.frame }

namespace Tree

/-- A tree without bodies is read from the tags before the first end of stream. -/
theorem frame_parse (mode : Line.Reconstruction) (source : String) (tokens : List Token) :
    (parse mode source tokens).frame =
      { ritualId := unknownRitual
        blocks := ((live tokens).filter Segment.opensLanguage).map fun tag => blockOf tag ""
        deferred := ((live tokens).filter Segment.opensNote).map Segment.note } := by
  rw [frame, parse, Segment.map_frame_block?, Segment.filterMap_deferred?]

end Tree

namespace Analysis

/-- The check of a tree does not look at its bodies. -/
theorem violations_frame (rules : CanonRules) (tree : Tree) (tokens : List Token) :
    violations rules tree.frame.blocks tokens = violations rules tree.blocks tokens := by
  have unread : checkBlock rules ∘ Block.frame = checkBlock rules := rfl
  rw [violations, Tree.frame, List.filterMap_map, unread, violations]

theorem analyze_frame (canon : Option CanonRules) (tree : Tree) (tokens : List Token) :
    (analyze canon tree tokens).map Tree.frame = analyze canon tree.frame tokens := by
  cases canon with
  | none => rfl
  | some rules =>
    rw [analyze, analyze, violations_frame]
    cases violations rules tree.blocks tokens with
    | nil => rfl
    | cons violation others => rfl

end Analysis

namespace Schema

/-- A document without code is that of the tree without bodies. -/
theorem frame_ofTree (tree : Tree) : (ofTree tree).frame = ofTree tree.frame :=
  (congrArg (Schema.mk currentVersion) (numbered_map_body (fun _ => "") 0 tree.blocks)).symm

end Schema

namespace Compilation

/-- What a compilation gives apart from code follows from the tree without bodies. -/
theorem compileSource_frame (canon : Option CanonRules) (mode : Line.Reconstruction)
    (source : String) :
    (compileSource canon mode source).map Schema.frame =
      (Analysis.analyze canon (Tree.parse mode source (Token.tokenize source)).frame
        (Token.tokenize source)).map Schema.ofTree := by
  rw [← Analysis.analyze_frame, compileSource]
  cases Analysis.analyze canon (Tree.parse mode source (Token.tokenize source))
      (Token.tokenize source) with
  | error failure => rfl
  | ok tree => exact congrArg Except.ok (Schema.frame_ofTree tree)

/-- The two ways of writing lines out give the same trees but for bodies, whatever the
tokens are, and the same error or the same documents but for code. -/
theorem reconstruction_decides_code :
    (∀ source tokens, (Tree.parse .source source tokens).frame =
        (Tree.parse .tokens source tokens).frame) ∧
      ∀ canon source,
        (∃ failure, compileSource canon .source source = .error failure ∧
          compileSource canon .tokens source = .error failure) ∨
        ∃ cut joined, compileSource canon .source source = .ok cut ∧
          compileSource canon .tokens source = .ok joined ∧ cut.frame = joined.frame := by
  have trees : ∀ source tokens, (Tree.parse .source source tokens).frame =
      (Tree.parse .tokens source tokens).frame := by
    intro source tokens
    rw [Tree.frame_parse, Tree.frame_parse]
  refine ⟨trees, ?_⟩
  intro canon source
  apply cases_of_map_eq
  rw [compileSource_frame, trees, ← compileSource_frame]

end Compilation
end Ritual
