import Ritual.Proofs.Analysis.Gate
import Ritual.Proofs.Token.LetterCase
import Ritual.Proofs.Tree.Segmentation

namespace Ritual

/-!
# The case of letters changes no verdict

What is compiled of a text, and what is found against it, is read from the outlines of
its tokens and from the blocks without their bodies.  Two texts that differ only in the
case of ASCII letters have both in common, so they succeed or fail together.
-/

open Text

namespace Tree

theorem live_map_outline (tokens : List Token) :
    live (tokens.map Token.outline) = (live tokens).map Token.outline := by
  rw [live, List.takeWhile_map]
  rfl

/-- A tag makes its block, up to the body, with its outline. -/
theorem blockOf_outline {tag : Token} (language : Segment.opensLanguage tag = true) :
    blockOf tag.outline "" = blockOf tag "" := by
  have noString : tag.kind ≠ .string := by
    rw [Segment.kind_of_opensLanguage language]
    exact TokenKind.noConfusion
  rw [blockOf, blockOf, Token.outline_text noString, Language.ofTag?_fold]
  rfl

/-- The blocks without their bodies are read from the outlines of the tokens. -/
theorem map_frame_parse (mode : Line.Reconstruction) (source : String) (tokens : List Token) :
    (parse mode source tokens).blocks.map Block.frame =
      ((live (tokens.map Token.outline)).filter Segment.opensLanguage).map
        fun tag => blockOf tag "" := by
  rw [parse, Segment.map_frame_block?, live_map_outline, List.filter_map, List.map_map]
  apply List.map_congr_left
  intro tag listed
  exact (blockOf_outline (List.mem_filter.mp listed).2).symm

theorem length_deferred_parse (mode : Line.Reconstruction) (source : String)
    (tokens : List Token) :
    (parse mode source tokens).deferred.length =
      ((live (tokens.map Token.outline)).filter Segment.opensNote).length := by
  rw [parse, Segment.filterMap_deferred?, live_map_outline, List.filter_map, List.length_map,
    List.length_map]
  rfl

end Tree

/-- What a violation says apart from its words. -/
def Violation.verdict (violation : Violation) : ViolationKind × Option Source.Location :=
  (violation.kind, violation.location)

namespace Analysis

/-- Two invocations at one place whose names are the same in lower case get one verdict. -/
theorem verdict_of_lowercase (rules : CanonRules) {left right : Invocation}
    (location : left.location = right.location)
    (school : lowercase left.school = lowercase right.school)
    (operation : lowercase left.operation = lowercase right.operation) :
    (checkInvocation rules left).map Violation.verdict =
      (checkInvocation rules right).map Violation.verdict := by
  have hasSchool : rules.hasSchool left.school = rules.hasSchool right.school := by
    rw [CanonRules.hasSchool, school, CanonRules.hasSchool]
  have hasOperation : rules.hasOperation left.operation = rules.hasOperation right.operation := by
    rw [CanonRules.hasOperation, operation, CanonRules.hasOperation]
  have operationsFor : rules.operationsFor left.school = rules.operationsFor right.school := by
    rw [CanonRules.operationsFor, school, CanonRules.operationsFor]
  unfold checkInvocation
  simp only [hasSchool, hasOperation, operationsFor, operation, location]
  split
  · rfl
  · split
    · rfl
    · split
      · split <;> rfl
      · rfl

theorem verdict_outline (rules : CanonRules) (token : Token) :
    (checkToken rules token.outline).map Violation.verdict =
      (checkToken rules token).map Violation.verdict := by
  unfold checkToken Invocation.ofToken?
  rw [Token.outline_kind]
  by_cases invocation : token.kind = .schoolInvocation
  · have noString : token.kind ≠ .string := by
      rw [invocation]
      exact TokenKind.noConfusion
    rw [if_pos invocation, if_pos invocation, Token.outline_text noString, String.toList_ofList,
      Invocation.names?_fold]
    cases Invocation.names? token.text.toList with
    | none => rfl
    | some names =>
      have lower : ∀ name : String,
          lowercase (String.ofList (fold name.toList)) = lowercase name := by
        intro name
        rw [lowercase_fold, String.ofList_toList]
      exact verdict_of_lowercase rules rfl (lower _) (lower _)
  · rw [if_neg invocation, if_neg invocation]

/-- The verdicts are read from the outlines of the tokens and the blocks without their
bodies. -/
theorem map_verdict_violations (rules : CanonRules) (blocks : List Block) (tokens : List Token) :
    (violations rules blocks tokens).map Violation.verdict =
      ((tokens.map Token.outline).filterMap fun token =>
          (checkToken rules token).map Violation.verdict) ++
        ((blocks.map Block.frame).filterMap (checkBlock rules)).map Violation.verdict := by
  have unread : checkBlock rules ∘ Block.frame = checkBlock rules := rfl
  rw [violations, filterMap_ofTokens, List.map_append, List.map_filterMap, List.filterMap_map,
    List.filterMap_map, unread]
  congr 2
  funext token
  exact (verdict_outline rules token).symm

end Analysis

namespace Schema

theorem map_type_numbered (start : Nat) (blocks : List Block) :
    (numbered start blocks).map SchemaBlock.type =
      blocks.map fun block => BlockType.ofLanguage block.language := by
  induction blocks generalizing start with
  | nil => rfl
  | cons block rest inductionHypothesis =>
    rw [numbered, List.map_cons, List.map_cons, inductionHypothesis]

/-- The types of a document are read from the blocks without their bodies. -/
theorem map_type_ofTree (tree : Tree) :
    (ofTree tree).blocks.map SchemaBlock.type =
      (tree.blocks.map Block.frame).map fun block => BlockType.ofLanguage block.language := by
  rw [ofTree, map_type_numbered, List.map_map]
  rfl

end Schema

namespace Compilation

/-- The case of ASCII letters changes neither the structure of a text nor the verdict. -/
theorem compileSource_letterCase {first second : String}
    (same : first.toList.map Char.toLower = second.toList.map Char.toLower) :
    (Token.tokenize first).map (fun token => (token.kind, token.span, token.location)) =
        (Token.tokenize second).map (fun token => (token.kind, token.span, token.location)) ∧
      (∀ mode,
        (Tree.parse mode first (Token.tokenize first)).blocks.map
            (fun block => (block.kind, block.language)) =
          (Tree.parse mode second (Token.tokenize second)).blocks.map
            (fun block => (block.kind, block.language)) ∧
        (Tree.parse mode first (Token.tokenize first)).deferred.length =
          (Tree.parse mode second (Token.tokenize second)).deferred.length) ∧
      ∀ canon mode,
        (∃ left right, compileSource canon mode first = .ok left ∧
          compileSource canon mode second = .ok right ∧
          left.blocks.map SchemaBlock.type = right.blocks.map SchemaBlock.type) ∨
        ∃ left right, compileSource canon mode first = .error (.constitutional left) ∧
          compileSource canon mode second = .error (.constitutional right) ∧
          left.map (fun violation => (violation.kind, violation.location)) =
            right.map (fun violation => (violation.kind, violation.location)) := by
  have outlines := Token.outline_tokenize same
  have frames : ∀ mode, (Tree.parse mode first (Token.tokenize first)).blocks.map Block.frame =
      (Tree.parse mode second (Token.tokenize second)).blocks.map Block.frame := by
    intro mode
    rw [Tree.map_frame_parse, Tree.map_frame_parse, outlines]
  refine ⟨?_, ?_, ?_⟩
  · have places := congrArg
      (List.map fun token : Token => (token.kind, token.span, token.location)) outlines
    rw [List.map_map, List.map_map] at places
    exact places
  · intro mode
    constructor
    · have languages := congrArg
        (List.map fun block : Block => (block.kind, block.language)) (frames mode)
      rw [List.map_map, List.map_map] at languages
      exact languages
    · rw [Tree.length_deferred_parse, Tree.length_deferred_parse, outlines]
  · intro canon mode
    have types := (Schema.map_type_ofTree _).trans
      ((congrArg _ (frames mode)).trans (Schema.map_type_ofTree _).symm)
    cases canon with
    | none => exact Or.inl ⟨_, _, rfl, rfl, types⟩
    | some rules =>
      have verdicts := Analysis.map_verdict_violations rules
        (Tree.parse mode first (Token.tokenize first)).blocks (Token.tokenize first)
      rw [outlines, frames mode, ← Analysis.map_verdict_violations] at verdicts
      rw [compileSource_some, compileSource_some]
      generalize Analysis.violations rules (Tree.parse mode first (Token.tokenize first)).blocks
        (Token.tokenize first) = left at verdicts ⊢
      generalize Analysis.violations rules (Tree.parse mode second (Token.tokenize second)).blocks
        (Token.tokenize second) = right at verdicts ⊢
      cases left with
      | nil =>
        obtain rfl := List.map_eq_nil_iff.mp verdicts.symm
        exact Or.inl ⟨_, _, rfl, rfl, types⟩
      | cons violation others =>
        cases right with
        | nil => cases verdicts
        | cons other rest => exact Or.inr ⟨_, _, rfl, rfl, verdicts⟩

/-- A tag with an attribute, an invocation of no school, and a literal whose value the case
of a letter changes. -/
theorem compileSource_letterCase_mixed :
    let first := "LANGUAGE[lang='ΑΣ'] ::Fire:Burn '\\n'"
    let second := "Language[LANG='ΑΣ'] ::FIRE:bURN '\\N'"
    first.toList.map Char.toLower = second.toList.map Char.toLower ∧
      ∃ left right,
        compileSource (some CanonRules.empty) .source first = .error (.constitutional left) ∧
        compileSource (some CanonRules.empty) .source second = .error (.constitutional right) ∧
        left.map (fun violation => (violation.kind, violation.location)) =
          right.map (fun violation => (violation.kind, violation.location)) := by
  intro first second
  have same : first.toList.map Char.toLower = second.toList.map Char.toLower := by
    decide +kernel
  have fails : (compileSource (some CanonRules.empty) .source first).toOption.isNone = true := by
    decide +kernel
  refine ⟨same, ?_⟩
  rcases (compileSource_letterCase same).2.2 (some CanonRules.empty) .source with
    ⟨_, _, compiled, _⟩ | failed
  · rw [compiled] at fails
    cases fails
  · exact failed

end Compilation
end Ritual
