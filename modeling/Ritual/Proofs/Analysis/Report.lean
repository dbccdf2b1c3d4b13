import Ritual.Proofs.Canon.Invariant
import Ritual.Proofs.Language.Attribute
import Ritual.Proofs.Schema.BlockTypes
import Ritual.Proofs.Text.OneLine

namespace Ritual

/-!
# The lines of a report

A report quotes the names that stand in the ritual and the names that the canon lists.
Those of the ritual are read as names or as word characters, which a line feed is not, and
no case of theirs has one.  So unless the canon itself stores a line feed, the report has
one line for each violation, and every line tells the place of its violation.
-/

namespace CanonRules

/-- Whether a name is stored in the rules, as a school, an operation or a block type. -/
inductive Stores (rules : CanonRules) (name : String) : Prop where
  | school (listed : name ∈ rules.schools) : Stores rules name
  | operation (listed : name ∈ rules.operations) : Stores rules name
  | listing (found : (rules.schoolOperations.get? name).isSome = true) : Stores rules name
  | listed {school : String} (lists : rules.schoolOperations.Lists school name) :
      Stores rules name
  | blockType (listed : name ∈ rules.blockTypes) : Stores rules name

/-- Whether no stored name has a line feed. -/
def Unbroken (rules : CanonRules) : Prop :=
  ∀ name, rules.Stores name → Text.OneLine name

namespace Unbroken

variable {rules : CanonRules}

theorem empty : Unbroken CanonRules.empty := by
  intro name stored
  cases stored with
  | school listed => simp [CanonRules.empty] at listed
  | operation listed => simp [CanonRules.empty] at listed
  | listing found => simp [CanonRules.empty] at found
  | listed lists => simp [CanonRules.empty, NameMap.Lists] at lists
  | blockType listed =>
    have fixed : ∀ blockType ∈ defaultBlockTypes, Text.OneLine blockType := by decide
    rw [CanonRules.empty, NameSet.mem_ofList] at listed
    exact fixed name listed

/-- A school that is written without a line feed, with its operations, adds none. -/
theorem withSchool (unbroken : rules.Unbroken) {school : String} (title : Text.OneLine school)
    {operations : List String} (oneLine : ∀ operation ∈ operations, Text.OneLine operation) :
    (rules.withSchool school operations).Unbroken := by
  have added : ∀ name ∈ operations.map Text.lowercase, Text.OneLine name := by
    intro name listed
    rcases List.mem_map.mp listed with ⟨operation, given, rfl⟩
    exact (oneLine operation given).lowercase
  intro name stored
  cases stored with
  | school listed =>
    rcases mem_schools_withSchool.mp listed with rfl | old
    · exact title.lowercase
    · exact unbroken name (.school old)
  | operation listed =>
    rcases mem_operations_withSchool.mp listed with old | new
    · exact unbroken name (.operation old)
    · exact added name new
  | listing found =>
    rcases isSome_get?_withSchool.mp found with ⟨rfl, _⟩ | old
    · exact title.lowercase
    · exact unbroken name (.listing old)
  | listed lists =>
    rcases lists_withSchool.mp lists with old | ⟨_, new⟩
    · exact unbroken name (.listed old)
    · exact added name new
  | blockType listed => exact unbroken name (.blockType listed)

end Unbroken
end CanonRules

theorem NameSet.oneLine_listing {names : NameSet} (oneLine : ∀ name ∈ names, Text.OneLine name) :
    Text.OneLine names.listing :=
  Text.OneLine.intercalate (by decide) oneLine

/-! ## One line for each violation -/

namespace Violation

/-- Whether a violation has a place, and tells it in front of a detail of one line. -/
def TellsPlace (violation : Violation) : Prop :=
  ∃ kind location detail, violation = ofDetail kind (some location) detail ∧ Text.OneLine detail

theorem oneLine_heading (location : Source.Location) :
    Text.OneLine (heading (some location)) := by
  unfold heading
  simp only [Text.oneLine_append, Text.OneLine.natural, and_true]
  decide

theorem TellsPlace.oneLine_message {violation : Violation} (tells : violation.TellsPlace) :
    Text.OneLine violation.message := by
  rcases tells with ⟨kind, location, detail, rfl, oneLine⟩
  exact Text.oneLine_append.mpr ⟨oneLine_heading location, oneLine⟩

end Violation

namespace Language

theorem oneLine_of_ofTag? {tag language : String} (found : ofTag? tag = some language) :
    Text.OneLine language := by
  have fixed : Text.OneLine "python" ∧ Text.OneLine "javascript" := by decide
  unfold ofTag? at found
  simp only at found
  split at found
  · obtain rfl := Option.some.inj found
    exact fixed.1
  · split at found
    · obtain rfl := Option.some.inj found
      exact fixed.2
    · split at found
      · rcases Option.map_eq_some_iff.mp found with ⟨word, value, rfl⟩
        rcases attribute?_eq_some_iff.mp value with ⟨_, ⟨_, _, _, isAttribute⟩, _⟩
        cases isAttribute with
        | mk _ _ _ _ _ _ wordChars =>
          have noWordChar : Text.isWordChar '\n' = false := by decide
          apply Text.OneLine.lowercase
          rw [Text.OneLine, String.toList_ofList]
          exact Lexeme.not_mem_of_outside noWordChar wordChars
      · cases found

end Language

theorem Tree.exists_oneLine_language {mode : Line.Reconstruction} {source : String} {block : Block}
    (parsed : block ∈ (parse mode source (Token.tokenize source)).blocks) :
    ∃ language, block.kind = language ++ "_block" ∧ Text.OneLine language := by
  rcases List.getElem?_of_mem parsed with ⟨index, found⟩
  rcases exists_related (blocks_parse mode source) found with ⟨made, _, makes⟩
  refine ⟨block.language, makes.kind, ?_⟩
  rw [makes.language]
  cases named : Language.ofTag? (Segment.ofTag made.1 made.2).tag.text with
  | none =>
    have fixed : Text.OneLine Segment.unknownLanguage := by decide
    exact fixed
  | some language => exact Language.oneLine_of_ofTag? named

theorem Invocation.oneLine_names {source : String} {invocation : Invocation}
    (listed : invocation ∈ ofTokens (Token.tokenize source)) :
    Text.OneLine invocation.school ∧ Text.OneLine invocation.operation := by
  have noNameChar : Lexeme.isNameChar '\n' = false := by decide
  rcases List.mem_filterMap.mp listed with ⟨token, inStream, view⟩
  rcases exists_named inStream (ofToken?_eq_some view).1 with
    ⟨named, same, _, school, operation⟩
  obtain rfl := Option.some.inj (same.symm.trans view)
  exact ⟨Lexeme.not_mem_of_outside noNameChar school,
    Lexeme.not_mem_of_outside noNameChar operation⟩

namespace Analysis

variable {rules : CanonRules} {violation : Violation}

theorem tellsPlace_of_checkInvocation (unbroken : rules.Unbroken) {invocation : Invocation}
    (school : Text.OneLine invocation.school) (operation : Text.OneLine invocation.operation)
    (found : checkInvocation rules invocation = some violation) : violation.TellsPlace := by
  unfold checkInvocation at found
  simp only at found
  split at found
  · obtain rfl := Option.some.inj found
    refine ⟨_, _, _, rfl, ?_⟩
    simp only [Text.oneLine_append, school, Text.OneLine.natural, and_true]
    decide
  · split at found
    · obtain rfl := Option.some.inj found
      refine ⟨_, _, _, rfl, ?_⟩
      simp only [Text.oneLine_append, operation, and_true]
      decide
    · split at found
      · rename_i names listing
        split at found
        · cases found
        · obtain rfl := Option.some.inj found
          refine ⟨_, _, _, rfl, ?_⟩
          have valid : Text.OneLine names.listing := by
            apply NameSet.oneLine_listing
            exact fun name listed => unbroken name (.listed ⟨names, listing, listed⟩)
          simp only [Text.oneLine_append, school, operation, valid, and_true]
          decide
      · cases found

theorem tellsPlace_of_checkBlock (unbroken : rules.Unbroken) {block : Block}
    {language : String} (kind : block.kind = language ++ "_block")
    (oneLine : Text.OneLine language)
    (found : checkBlock rules block = some violation) : violation.TellsPlace := by
  unfold checkBlock blockTypeOf at found
  rw [kind, withoutBlockEnding_append] at found
  simp only at found
  split at found
  · cases found
  · obtain rfl := Option.some.inj found
    refine ⟨_, _, _, rfl, ?_⟩
    have valid : Text.OneLine rules.blockTypes.listing := by
      apply NameSet.oneLine_listing
      exact fun name listed => unbroken name (.blockType listed)
    simp only [Text.oneLine_append, oneLine.uppercase, valid, and_true]
    decide

theorem tellsPlace_of_mem_violations (unbroken : rules.Unbroken) {mode : Line.Reconstruction}
    {source : String}
    (listed : violation ∈ violations rules
      (Tree.parse mode source (Token.tokenize source)).blocks (Token.tokenize source)) :
    violation.TellsPlace := by
  rcases List.mem_append.mp listed with ofInvocation | ofBlock
  · rcases List.mem_filterMap.mp ofInvocation with ⟨invocation, called, found⟩
    rcases Invocation.oneLine_names called with ⟨school, operation⟩
    exact tellsPlace_of_checkInvocation unbroken school operation found
  · rcases List.mem_filterMap.mp ofBlock with ⟨block, parsed, found⟩
    rcases Tree.exists_oneLine_language parsed with ⟨language, kind, oneLine⟩
    exact tellsPlace_of_checkBlock unbroken kind oneLine found

end Analysis

/-! ## The report -/

namespace RitualError

/-- A report of violations is their messages, one below the other. -/
theorem message_constitutional {found : List Violation} (some : found ≠ []) :
    (constitutional found).message =
      "\n".intercalate (constitutionalHeading :: found.map Violation.message) := by
  rw [String.intercalate_cons_of_ne_nil (mt List.map_eq_nil_iff.mp some)]
  rfl

end RitualError

namespace Compilation

variable {rules : CanonRules} {mode : Line.Reconstruction} {source : String}
  {found : List Violation}

theorem violations_of_compileSource
    (stopped : compileSource (some rules) mode source = .error (.constitutional found)) :
    found ≠ [] ∧ found = Analysis.violations rules
      (Tree.parse mode source (Token.tokenize source)).blocks (Token.tokenize source) := by
  rw [compileSource_some] at stopped
  split at stopped
  · cases stopped
  · rename_i violations nonempty
    cases stopped
    exact ⟨nonempty, rfl⟩

/-- The report of a ritual that is stopped has its heading and one line for each violation,
in order, which tells the violation's place, whatever the ritual calls its schools,
operations and languages. -/
theorem compileSource_report_lines (unbroken : rules.Unbroken)
    (stopped : compileSource (some rules) mode source = .error (.constitutional found)) :
    ∃ lines, (RitualError.constitutional found).message.toList.splitOn '\n' =
        "CONSTITUTIONAL VIOLATIONS DETECTED:".toList :: lines ∧
      List.Forall₂ (fun line violation => line = violation.message.toList ∧
          ∃ location, violation.location = some location ∧
            ("Constitutional violation at L" ++ toString location.line.toNat ++ ":C" ++
              toString location.column.toNat ++ ": ").toList <+: line)
        lines found := by
  rcases violations_of_compileSource stopped with ⟨nonempty, collected⟩
  have tells : ∀ violation ∈ found, violation.TellsPlace := by
    intro violation listed
    rw [collected] at listed
    exact Analysis.tellsPlace_of_mem_violations unbroken listed
  refine ⟨found.map fun violation => violation.message.toList, ?_, ?_⟩
  · have oneLine : ∀ line ∈ RitualError.constitutionalHeading :: found.map Violation.message,
        Text.OneLine line := by
      intro line listed
      rcases List.mem_cons.mp listed with rfl | ofViolation
      · decide
      · rcases List.mem_map.mp ofViolation with ⟨violation, given, rfl⟩
        exact (tells violation given).oneLine_message
    rw [RitualError.message_constitutional nonempty,
      Text.lines_intercalate (List.cons_ne_nil _ _) oneLine, List.map_cons, List.map_map]
    rfl
  · apply List.forall₂_map_left_iff.mpr
    apply List.forall₂_same.mpr
    intro violation listed
    rcases tells violation listed with ⟨kind, location, detail, rfl, _⟩
    refine ⟨rfl, location, rfl, ?_⟩
    rw [Violation.ofDetail, String.toList_append (t := detail)]
    exact List.prefix_append _ _

/-- Two violations: an operation of another school, and a block in a language whose upper
case is longer than its name. -/
theorem compileSource_report_lines_foreign :
    ((CanonRules.empty.withSchool "Fire" ["Ignite"]).withSchool "Ice" ["Freeze"]).Unbroken ∧
      ∃ first second lines,
        compileSource
            (some ((CanonRules.empty.withSchool "Fire" ["Ignite"]).withSchool "Ice" ["Freeze"]))
            .source "::fire:Freeze\nLANGUAGE[lang=\"ß\"]\n1" =
          .error (.constitutional [first, second]) ∧
        (RitualError.constitutional [first, second]).message.toList.splitOn '\n' =
          "CONSTITUTIONAL VIOLATIONS DETECTED:".toList :: lines ∧
        List.Forall₂ (fun line violation => line = violation.message.toList ∧
            ∃ location, violation.location = some location ∧
              ("Constitutional violation at L" ++ toString location.line.toNat ++ ":C" ++
                toString location.column.toNat ++ ": ").toList <+: line)
          lines [first, second] := by
  have unbroken : ((CanonRules.empty.withSchool "Fire" ["Ignite"]).withSchool "Ice"
      ["Freeze"]).Unbroken :=
    (CanonRules.Unbroken.empty.withSchool (by decide) (by decide)).withSchool (by decide)
      (by decide)
  have stopped : compileSource
      (some ((CanonRules.empty.withSchool "Fire" ["Ignite"]).withSchool "Ice" ["Freeze"]))
      .source "::fire:Freeze\nLANGUAGE[lang=\"ß\"]\n1" =
    .error (.constitutional
      [.ofDetail .operationNotInSchool (some ⟨1, 1⟩)
        "School 'fire' does not support operation 'Freeze' (valid: ignite)",
      .ofDetail .unknownBlockType (some ⟨2, 1⟩)
        ("Block type 'SS' not recognized by runtime " ++
          "(valid: BLUEPRINT, JAVASCRIPT, JS, LANGUAGE, NATIVE, PYTHON, QUANTUM, WEB)")]) := by
    decide +kernel
  rcases compileSource_report_lines unbroken stopped with ⟨lines, cut, each⟩
  exact ⟨unbroken, _, _, lines, stopped, cut, each⟩

end Compilation
end Ritual
