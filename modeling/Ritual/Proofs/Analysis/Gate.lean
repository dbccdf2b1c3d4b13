import Ritual.Compilation
import Ritual.Proofs.Collections
import Ritual.Proofs.Invocation.View
import Ritual.Proofs.Tree.Blocks

namespace Ritual
namespace Analysis

/-!
# What the check before compiling lets through

A ritual compiles against rules exactly if no invocation token and no block of it
fails its check.  Otherwise the report has one violation for each that fails: the
invocations' in the order of the stream, then the blocks'.  Every violation names
a place at which the offending text stands, and no place is named twice within
either part.
-/

/-! ## What fails -/

/-- The violation of a token, which only an invocation can have. -/
def checkToken (rules : CanonRules) (token : Token) : Option Violation :=
  (Invocation.ofToken? token).bind (checkInvocation rules)

/-- Whether a token is an invocation that fails its check. -/
def failsToken (rules : CanonRules) (token : Token) : Bool :=
  (checkToken rules token).isSome

/-- Whether a block fails its check. -/
def failsBlock (rules : CanonRules) (block : Block) : Bool :=
  (checkBlock rules block).isSome

theorem location_of_checkInvocation {rules : CanonRules} {invocation : Invocation}
    {violation : Violation} (found : checkInvocation rules invocation = some violation) :
    violation.location = some invocation.location := by
  unfold checkInvocation at found
  simp only at found
  split at found
  · cases found
    rfl
  · split at found
    · cases found
      rfl
    · split at found
      · split at found
        · cases found
        · cases found
          rfl
      · cases found

theorem location_of_checkBlock {rules : CanonRules} {block : Block} {violation : Violation}
    (found : checkBlock rules block = some violation) :
    violation.location = some block.location := by
  unfold checkBlock at found
  simp only at found
  split at found
  · cases found
  · cases found
    rfl

theorem filterMap_ofTokens (rules : CanonRules) (tokens : List Token) :
    (Invocation.ofTokens tokens).filterMap (checkInvocation rules) =
      tokens.filterMap (checkToken rules) :=
  List.filterMap_filterMap

/-! ## Places in the source -/

/-- A violation at the place of a token, where the source continues with the
token's text. -/
structure Located (source : List Char) (violation : Violation) (token : Token) : Prop where
  location : violation.location = some token.location
  text : token.text.toList <+: Source.textAt token.location source

/-- Whether two violations both have a place, the first one earlier. -/
def Before (first second : Violation) : Prop :=
  ∃ earlier later, first.location = some earlier ∧ second.location = some later ∧
    earlier.Before later

theorem pairwise_before {source : List Char} {violations : List Violation} {tokens : List Token}
    (located : List.Forall₂ (Located source) violations tokens)
    (ordered : tokens.Pairwise fun first second => first.location.Before second.location) :
    violations.Pairwise Before := by
  induction located with
  | nil => exact .nil
  | @cons violation token others rest first later inductionHypothesis =>
    rcases List.pairwise_cons.mp ordered with ⟨before, restOrdered⟩
    refine .cons ?_ (inductionHypothesis restOrdered)
    intro other listed
    rcases List.getElem_of_mem listed with ⟨index, small, rfl⟩
    have related := (List.forall₂_iff_get.mp later).2 index small (later.length_eq ▸ small)
    exact ⟨_, _, first.location, related.location, before _ (List.get_mem _ _)⟩

/-! ## The report -/

/-- The violations of invocations and those of blocks, compared with the tokens of a
source and with its blocks, each beside its tag. -/
structure Reports (rules : CanonRules) (source : List Char) (tokens : List Token)
    (blocks : List (Block × Token)) (ofInvocations ofBlocks : List Violation) : Prop where
  invocations : List.Forall₂ (fun violation token => Located source violation token ∧
      ∃ invocation, Invocation.ofToken? token = some invocation ∧ token.text = invocation.text ∧
        checkInvocation rules invocation = some violation)
    ofInvocations (tokens.filter (failsToken rules))
  blocks : List.Forall₂ (fun violation made => Located source violation made.2 ∧
      checkBlock rules made.1 = some violation)
    ofBlocks (blocks.filter fun made => failsBlock rules made.1)
  invocationsOrdered : ofInvocations.Pairwise Before
  blocksOrdered : ofBlocks.Pairwise Before

theorem located_of_checkToken {source : String} (countable : Source.Countable source.toList)
    {rules : CanonRules} {token : Token} (listed : token ∈ Token.tokenize source)
    {violation : Violation} (found : checkToken rules token = some violation) :
    Located source.toList violation token ∧
      ∃ invocation, Invocation.ofToken? token = some invocation ∧ token.text = invocation.text ∧
        checkInvocation rules invocation = some violation := by
  rcases Option.bind_eq_some_iff.mp found with ⟨invocation, view, checked⟩
  rcases Invocation.ofToken?_eq_some view with ⟨kind, location⟩
  rcases Invocation.exists_ofToken? listed kind with ⟨same, viewed, text⟩
  obtain rfl := Option.some.inj (view.symm.trans viewed)
  have there := location_of_checkInvocation checked
  rw [location] at there
  exact ⟨⟨there, Token.text_at_location countable listed (by simp [kind]) (by simp [kind])⟩,
    invocation, view, text, checked⟩

theorem located_of_checkBlock {source : String} (countable : Source.Countable source.toList)
    {rules : CanonRules} {mode : Line.Reconstruction} {made : Block × Token}
    (listed : made ∈ Tree.tagged mode source) {violation : Violation}
    (found : checkBlock rules made.1 = some violation) :
    Located source.toList violation made.2 := by
  rcases Tree.exists_segment_of_mem_tagged listed with ⟨before, after, parts, language, makes⟩
  have inStream : made.2 ∈ Token.tokenize source := by
    rw [parts]
    exact List.mem_append_right _ List.mem_cons_self
  have kind := Segment.kind_of_opensLanguage language
  have there := location_of_checkBlock found
  rw [makes.location] at there
  exact ⟨there, Token.text_at_location countable inStream (by simp [kind]) (by simp [kind])⟩

/-- The violations of a source are reported in order and at their places. -/
theorem reports_violations {source : String} (countable : Source.Countable source.toList)
    (rules : CanonRules) (mode : Line.Reconstruction) :
    Reports rules source.toList (Token.tokenize source) (Tree.tagged mode source)
      ((Token.tokenize source).filterMap (checkToken rules))
      ((Tree.tagged mode source).filterMap fun made => checkBlock rules made.1) := by
  have ordered := Token.tokenize_ordered countable
  have invocations : List.Forall₂ (fun violation token => Located source.toList violation token ∧
        ∃ invocation, Invocation.ofToken? token = some invocation ∧
          token.text = invocation.text ∧ checkInvocation rules invocation = some violation)
      ((Token.tokenize source).filterMap (checkToken rules))
      ((Token.tokenize source).filter (failsToken rules)) :=
    forall₂_of_mem (forall₂_filterMap _ _) fun _ _ listed found =>
      located_of_checkToken countable (List.mem_filter.mp listed).1 found
  have blocks : List.Forall₂ (fun violation made => Located source.toList violation made.2 ∧
        checkBlock rules made.1 = some violation)
      ((Tree.tagged mode source).filterMap fun made => checkBlock rules made.1)
      ((Tree.tagged mode source).filter fun made => failsBlock rules made.1) :=
    forall₂_of_mem (forall₂_filterMap _ _) fun _ _ listed found =>
      ⟨located_of_checkBlock countable (List.mem_filter.mp listed).1 found, found⟩
  have tagsOrdered : (((Tree.tagged mode source).filter fun made =>
      failsBlock rules made.1).map Prod.snd).Pairwise fun first second =>
        first.location.Before second.location := by
    have inTags := (List.filter_sublist (p := fun made : Block × Token => failsBlock rules made.1)
      (l := Tree.tagged mode source)).map Prod.snd
    rw [Tree.map_snd_tagged] at inTags
    exact ordered.sublist (inTags.trans List.filter_sublist)
  -- the tokens of either part are a sublist of the stream, which is in order
  refine ⟨invocations, blocks, ?_, ?_⟩
  · exact pairwise_before (invocations.imp fun _ _ located => located.1)
      (ordered.sublist List.filter_sublist)
  · exact pairwise_before (List.forall₂_map_right_iff.mpr
      (blocks.imp fun _ _ located => located.1)) tagsOrdered

/-! ## The gate -/

theorem violations_tagged (rules : CanonRules) (mode : Line.Reconstruction) (source : String) :
    violations rules (Tree.parse mode source (Token.tokenize source)).blocks
        (Token.tokenize source) =
      (Token.tokenize source).filterMap (checkToken rules) ++
        (Tree.tagged mode source).filterMap fun made => checkBlock rules made.1 := by
  rw [violations, filterMap_ofTokens, ← Tree.map_fst_tagged, List.filterMap_map]
  rfl

theorem violations_ne_nil (rules : CanonRules) (blocks : List Block) (tokens : List Token) :
    violations rules blocks tokens ≠ [] ↔
      (∃ token ∈ tokens, failsToken rules token = true) ∨
        ∃ block ∈ blocks, failsBlock rules block = true := by
  rw [violations, filterMap_ofTokens, Ne, List.append_eq_nil_iff, not_and_or,
    List.filterMap_eq_nil_iff, List.filterMap_eq_nil_iff]
  simp only [not_forall, failsToken, failsBlock, Option.isSome_iff_ne_none, exists_prop]

end Analysis

namespace Compilation

/-- A compilation against rules gives the schema, or every violation. -/
theorem compileSource_some (rules : CanonRules) (mode : Line.Reconstruction) (source : String) :
    compileSource (some rules) mode source =
      match Analysis.violations rules (Tree.parse mode source (Token.tokenize source)).blocks
        (Token.tokenize source) with
      | [] => .ok (Schema.ofTree (Tree.parse mode source (Token.tokenize source)))
      | found => .error (.constitutional found) := by
  unfold compileSource Analysis.analyze
  simp only
  generalize Analysis.violations rules (Tree.parse mode source (Token.tokenize source)).blocks
    (Token.tokenize source) = found
  cases found <;> rfl

/-- What stops a compilation is all that fails, and nothing else stops it. -/
theorem compileSource_gate {source : String} (countable : Source.Countable source.toList)
    (rules : CanonRules) (mode : Line.Reconstruction) :
    (∀ token ∈ Token.tokenize source, token.kind = .schoolInvocation →
        ∃ invocation, Invocation.ofToken? token = some invocation) ∧
      List.Forall₂ (fun block tag =>
          ∃ after, Segment.Makes mode source.toList (Segment.ofTag tag after) block)
        (Tree.parse mode source (Token.tokenize source)).blocks (Tree.tags source) ∧
      ((∃ found, compileSource (some rules) mode source = .error (.constitutional found)) ↔
        (∃ token ∈ Token.tokenize source, Analysis.failsToken rules token = true) ∨
          ∃ block ∈ (Tree.parse mode source (Token.tokenize source)).blocks,
            Analysis.failsBlock rules block = true) ∧
      ∀ found, compileSource (some rules) mode source = .error (.constitutional found) →
        ∃ ofInvocations ofBlocks, found = ofInvocations ++ ofBlocks ∧
          Analysis.Reports rules source.toList (Token.tokenize source) (Tree.tagged mode source)
            ofInvocations ofBlocks := by
  have compiled := compileSource_some rules mode source
  refine ⟨?_, Tree.blocks_tags mode source, ?_, ?_⟩
  · intro token listed kind
    rcases Invocation.exists_ofToken? listed kind with ⟨invocation, view, _⟩
    exact ⟨invocation, view⟩
  · rw [← Analysis.violations_ne_nil, compiled]
    cases Analysis.violations rules (Tree.parse mode source (Token.tokenize source)).blocks
      (Token.tokenize source) with
    | nil => simp
    | cons violation others => simp
  · intro found stopped
    refine ⟨_, _, ?_, Analysis.reports_violations countable rules mode⟩
    rw [← Analysis.violations_tagged]
    rw [compiled] at stopped
    split at stopped
    · cases stopped
    · cases stopped
      rfl

/-- A ritual that invokes an unknown school is stopped, with a report. -/
theorem compileSource_gate_unknown :
    Source.Countable "\"é\" ::no:op\nLANGUAGE[lang=\"x\"]\n1".toList ∧
      ∃ found, compileSource (some CanonRules.empty) .source
          "\"é\" ::no:op\nLANGUAGE[lang=\"x\"]\n1" = .error (.constitutional found) ∧
        ∃ ofInvocations ofBlocks, found = ofInvocations ++ ofBlocks ∧
          Analysis.Reports CanonRules.empty "\"é\" ::no:op\nLANGUAGE[lang=\"x\"]\n1".toList
            (Token.tokenize "\"é\" ::no:op\nLANGUAGE[lang=\"x\"]\n1")
            (Tree.tagged .source "\"é\" ::no:op\nLANGUAGE[lang=\"x\"]\n1")
            ofInvocations ofBlocks := by
  have countable : Source.Countable "\"é\" ::no:op\nLANGUAGE[lang=\"x\"]\n1".toList :=
    Source.countable_of_length (by decide)
  rcases compileSource_gate countable CanonRules.empty .source with ⟨_, _, gate, report⟩
  rcases gate.mpr (.inl (by decide +kernel)) with ⟨found, stopped⟩
  exact ⟨countable, found, stopped, report found stopped⟩

end Compilation
end Ritual
