import Ritual.Proofs.Canon.Invariant
import Ritual.Proofs.Canon.Registration
import Ritual.Proofs.Compilation.Concatenation

namespace Ritual

/-!
# What a larger canon still accepts

One more school, or more operations of a school, make every part of the rules larger.
Acceptance is lost nevertheless if a school that had no list, and so accepted every known
operation, is given its first one.  In all other cases a ritual that compiles goes on to
compile, to the same document.
-/

namespace Analysis

variable {rules : CanonRules} {invocation : Invocation} {school : String}
  {operations : List String}

/-- Whether the rules accept an invocation: its school and its operation are known, and the
school lists the operation if it lists any. -/
structure Accepts (rules : CanonRules) (invocation : Invocation) : Prop where
  school : Text.lowercase invocation.school ∈ rules.schools
  operation : Text.lowercase invocation.operation ∈ rules.operations
  listed : (rules.schoolOperations.get? (Text.lowercase invocation.school)).isSome = true →
    rules.schoolOperations.Lists (Text.lowercase invocation.school)
      (Text.lowercase invocation.operation)

theorem checkInvocation_eq_none_iff :
    checkInvocation rules invocation = none ↔ Accepts rules invocation := by
  unfold checkInvocation CanonRules.hasSchool CanonRules.hasOperation CanonRules.operationsFor
  by_cases school : Text.lowercase invocation.school ∈ rules.schools
  · by_cases operation : Text.lowercase invocation.operation ∈ rules.operations
    · simp only [school, operation, decide_true, Bool.not_true, Bool.false_eq_true, if_false]
      cases found : rules.schoolOperations.get? (Text.lowercase invocation.school) with
      | none =>
        refine iff_of_true rfl ⟨school, operation, ?_⟩
        rw [found]
        exact nofun
      | some names =>
        have lists : Accepts rules invocation ↔ Text.lowercase invocation.operation ∈ names := by
          constructor
          · intro accepted
            rcases accepted.listed (by rw [found]; rfl) with ⟨others, same, member⟩
            obtain rfl := Option.some.inj (found.symm.trans same)
            exact member
          · intro member
            exact ⟨school, operation, fun _ => ⟨names, found, member⟩⟩
        rw [lists]
        by_cases member : Text.lowercase invocation.operation ∈ names <;> simp [member]
    · simp only [school, operation, decide_true, decide_false, Bool.not_true, Bool.not_false,
        Bool.false_eq_true, if_false, if_true]
      exact iff_of_false nofun fun accepted => operation accepted.operation
  · simp only [school, decide_false, Bool.not_false, if_true]
    exact iff_of_false nofun fun accepted => school accepted.school

/-- An invocation that was accepted is lost only by the first list of its school. -/
theorem Accepts.withSchool_iff (accepted : Accepts rules invocation) :
    Accepts (rules.withSchool school operations) invocation ↔
      (Text.lowercase invocation.school = Text.lowercase school →
        rules.schoolOperations.get? (Text.lowercase school) = none → operations ≠ [] →
          Text.lowercase invocation.operation ∈ operations.map Text.lowercase) := by
  constructor
  · intro larger same listless nonempty
    have lists := larger.listed
      (CanonRules.isSome_get?_withSchool.mpr (Or.inl ⟨same, nonempty⟩))
    rcases CanonRules.lists_withSchool.mp lists with ⟨names, found, _⟩ | ⟨_, added⟩
    · rw [same, listless] at found
      cases found
    · exact added
  · intro kept
    refine ⟨CanonRules.mem_schools_withSchool.mpr (Or.inr accepted.school),
      CanonRules.mem_operations_withSchool.mpr (Or.inl accepted.operation), ?_⟩
    intro hasList
    rw [CanonRules.lists_withSchool]
    cases before : rules.schoolOperations.get? (Text.lowercase invocation.school) with
    | some names => exact Or.inl (accepted.listed (by rw [before]; rfl))
    | none =>
      rcases CanonRules.isSome_get?_withSchool.mp hasList with ⟨same, nonempty⟩ | old
      · exact Or.inr ⟨same, kept same (same ▸ before) nonempty⟩
      · rw [before] at old
        cases old

theorem violations_eq_nil_iff {blocks : List Block} {tokens : List Token} :
    violations rules blocks tokens = [] ↔
      (∀ invocation ∈ Invocation.ofTokens tokens, Accepts rules invocation) ∧
        ∀ block ∈ blocks, checkBlock rules block = none := by
  simp only [violations, List.append_eq_nil_iff, List.filterMap_eq_nil_iff,
    checkInvocation_eq_none_iff]

/-- Schools do not matter to blocks. -/
theorem checkBlock_withSchool (block : Block) :
    checkBlock (rules.withSchool school operations) block = checkBlock rules block :=
  rfl

end Analysis

namespace Compilation

open Registration (SameName)

variable {rules : CanonRules} {mode : Line.Reconstruction} {source : String} {schema : Schema}

theorem compileSource_some_eq_ok_iff :
    compileSource (some rules) mode source = .ok schema ↔
      ((∀ invocation ∈ Invocation.ofTokens (Token.tokenize source),
          Analysis.Accepts rules invocation) ∧
        ∀ block ∈ (Tree.parse mode source (Token.tokenize source)).blocks,
          Analysis.checkBlock rules block = none) ∧
      schema = Schema.ofTree (Tree.parse mode source (Token.tokenize source)) := by
  rw [compileSource_eq_ok_iff, Analysis.passes_some, Analysis.violations_eq_nil_iff]

/-- A ritual that compiles is stopped by one more school only if the school gets its first
list by that. -/
theorem compileSource_withSchool_iff
    (compiled : compileSource (some rules) mode source = .ok schema) (school : String)
    (operations : List String) :
    compileSource (some (rules.withSchool school operations)) mode source = .ok schema ↔
      ∀ invocation ∈ Invocation.ofTokens (Token.tokenize source),
        SameName invocation.school school → rules.operationsFor school = none →
          operations ≠ [] → ∃ operation ∈ operations, SameName operation invocation.operation := by
  rcases compileSource_some_eq_ok_iff.mp compiled with ⟨⟨accepted, blocks⟩, written⟩
  rw [compileSource_some_eq_ok_iff]
  simp only [Analysis.checkBlock_withSchool]
  constructor
  · rintro ⟨⟨larger, _⟩, _⟩ invocation listed same listless nonempty
    have kept := (accepted invocation listed).withSchool_iff.mp (larger invocation listed)
    exact List.mem_map.mp (kept same listless nonempty)
  · intro kept
    refine ⟨⟨?_, blocks⟩, written⟩
    intro invocation listed
    apply (accepted invocation listed).withSchool_iff.mpr
    intro same listless nonempty
    exact List.mem_map.mpr (kept invocation listed same listless nonempty)

/-- A ritual that compiles does so after a school is added, or operations are added to the
list of a school, or nothing is added to a school.  If a school without a list is given one,
exactly the rituals go on to compile that call the school for nothing outside of it. -/
theorem compileSource_of_larger_canon
    (compiled : compileSource (some rules) mode source = .ok schema)
    (school : String) (operations : List String) :
    (rules.hasSchool school = false ∨ (rules.operationsFor school).isSome = true ∨
        operations = [] →
      compileSource (some (rules.withSchool school operations)) mode source = .ok schema) ∧
    (rules.hasSchool school = true → rules.operationsFor school = none → operations ≠ [] →
      (compileSource (some (rules.withSchool school operations)) mode source = .ok schema ↔
        ∀ invocation ∈ Invocation.ofTokens (Token.tokenize source),
          SameName invocation.school school →
            ∃ operation ∈ operations, SameName operation invocation.operation)) := by
  rw [compileSource_withSchool_iff compiled]
  constructor
  · intro safe invocation listed same listless nonempty
    rcases safe with unknown | hasList | none
    · have known := ((compileSource_some_eq_ok_iff.mp compiled).1.1 invocation listed).school
      rw [same] at known
      exact absurd known (of_decide_eq_false unknown)
    · rw [listless] at hasList
      cases hasList
    · exact absurd none nonempty
  · intro _ listless nonempty
    simp only [listless, nonempty, true_implies, not_false_eq_true, ne_eq]

/-- A school without a list is called for the operation of another one.  More operations of
that other school change nothing, and a list of the school's own stops the ritual. -/
theorem compileSource_of_larger_canon_listless :
    ∃ rules : CanonRules, rules.Reachable ∧
      compileSource (some rules) .source "::Ice:Ignite\nPYTHON::\nx" =
        .ok ⟨"1.0", [⟨0, .python, "x", []⟩]⟩ ∧
      compileSource (some (rules.withSchool "FIRE" ["Douse"])) .source
        "::Ice:Ignite\nPYTHON::\nx" = .ok ⟨"1.0", [⟨0, .python, "x", []⟩]⟩ ∧
      compileSource (some (rules.withSchool "ICE" ["Freeze"])) .source
        "::Ice:Ignite\nPYTHON::\nx" ≠ .ok ⟨"1.0", [⟨0, .python, "x", []⟩]⟩ := by
  have reachable := (CanonRules.Reachable.empty.withSchool "fire" ["ignite"]).withSchool "ice" []
  have compiled : compileSource
      (some ((CanonRules.empty.withSchool "fire" ["ignite"]).withSchool "ice" [])) .source
      "::Ice:Ignite\nPYTHON::\nx" = .ok ⟨"1.0", [⟨0, .python, "x", []⟩]⟩ := by
    decide +kernel
  refine ⟨_, reachable, compiled, ?_, ?_⟩
  · apply (compileSource_of_larger_canon compiled "FIRE" ["Douse"]).1
    exact Or.inr (Or.inl (by decide))
  · intro same
    have kept := ((compileSource_of_larger_canon compiled "ICE" ["Freeze"]).2
      (by decide +kernel) (by decide +kernel) (by decide)).mp same
    have called : (⟨"Ice", "Ignite", ⟨1, 1⟩⟩ : Invocation) ∈
        Invocation.ofTokens (Token.tokenize "::Ice:Ignite\nPYTHON::\nx") := by
      decide +kernel
    have sameSchool : Text.lowercase "Ice" = Text.lowercase "ICE" := by decide
    have otherOperation : Text.lowercase "Freeze" ≠ Text.lowercase "Ignite" := by decide
    rcases kept _ called sameSchool with ⟨operation, listed, sameName⟩
    rw [List.mem_singleton.mp listed] at sameName
    exact otherOperation sameName

end Compilation
end Ritual
