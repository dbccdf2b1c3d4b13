import Mathlib.Data.List.Induction
import Ritual.Analysis

namespace Ritual

/-!
# Rules mean what was registered

Rules that are built school by school keep two sets and a map that are derived
from the registrations.  What an invocation is checked against is said here of
the registrations alone, up to the case of letters.  A school may be registered
more than once, and it has a list as soon as one of its registrations has one.
-/

/-- A school and the operations that it is registered with. -/
structure Registration where
  school : String
  operations : List String

namespace Registration

/-- Whether two names differ at most in the case of letters. -/
def SameName (left right : String) : Prop :=
  Text.lowercase left = Text.lowercase right

/-- Whether the registration lists the operation. -/
def Lists (registration : Registration) (operation : String) : Prop :=
  ∃ listed ∈ registration.operations, SameName listed operation

/-- The names under which the registration lists its operations. -/
def listedNames (registration : Registration) : List String :=
  registration.operations.map Text.lowercase

theorem mem_listedNames {registration : Registration} {operation : String} :
    Text.lowercase operation ∈ registration.listedNames ↔ registration.Lists operation := by
  simp only [listedNames, List.mem_map, Lists, SameName]

theorem listedNames_eq_nil {registration : Registration} :
    registration.listedNames = [] ↔ registration.operations = [] :=
  List.map_eq_nil_iff

end Registration

namespace CanonRules

/-- The rules with one more registration. -/
def register (rules : CanonRules) (registration : Registration) : CanonRules :=
  rules.withSchool registration.school registration.operations

/-- The rules after some registrations, made in order. -/
def ofRegistrations (registrations : List Registration) : CanonRules :=
  registrations.foldl register empty

/-- The operations that a school lists, if it lists any, according to its
registrations. -/
def ListedFor (registrations : List Registration) (school : String) : Option NameSet → Prop
  | none => ∀ registration ∈ registrations,
      Text.lowercase registration.school = school → registration.operations = []
  | some listed =>
      (∃ registration ∈ registrations,
        Text.lowercase registration.school = school ∧ registration.operations ≠ []) ∧
      ∀ name, name ∈ listed ↔ ∃ registration ∈ registrations,
        Text.lowercase registration.school = school ∧ name ∈ registration.listedNames

/-- Rules that say what some registrations said. -/
structure Registered (registrations : List Registration) (rules : CanonRules) : Prop where
  schools : ∀ name, name ∈ rules.schools ↔
    ∃ registration ∈ registrations, Text.lowercase registration.school = name
  operations : ∀ name, name ∈ rules.operations ↔
    ∃ registration ∈ registrations, name ∈ registration.listedNames
  listedFor : ∀ school, ListedFor registrations school (rules.schoolOperations.get? school)

namespace Registered

theorem empty : Registered [] CanonRules.empty where
  schools := by simp [CanonRules.empty]
  operations := by simp [CanonRules.empty]
  listedFor := by simp [CanonRules.empty, ListedFor]

variable {registrations : List Registration} {rules : CanonRules}

/-- Another school's registration lists nothing for a school. -/
theorem listedFor_other {school : String} {found : Option NameSet}
    (listed : ListedFor registrations school found) {registration : Registration}
    (idle : Text.lowercase registration.school = school → registration.operations = []) :
    ListedFor (registrations ++ [registration]) school found := by
  cases found with
  | none =>
    intro other member
    rcases List.mem_append.mp member with old | new
    · exact listed other old
    · rw [List.mem_singleton.mp new]
      exact idle
  | some names =>
    rcases listed with ⟨⟨first, member, ofSchool, nonempty⟩, same⟩
    refine ⟨⟨first, List.mem_append_left _ member, ofSchool, nonempty⟩, ?_⟩
    intro name
    rw [same name]
    constructor
    · rintro ⟨other, old, others⟩
      exact ⟨other, List.mem_append_left _ old, others⟩
    · rintro ⟨other, member, otherSchool, lists⟩
      rcases List.mem_append.mp member with old | new
      · exact ⟨other, old, otherSchool, lists⟩
      · obtain rfl := List.mem_singleton.mp new
        rw [Registration.listedNames_eq_nil.mpr (idle otherSchool)] at lists
        cases lists

theorem listedFor_first {registration : Registration}
    (listed : ListedFor registrations (Text.lowercase registration.school) none)
    (nonempty : registration.operations ≠ []) :
    ListedFor (registrations ++ [registration]) (Text.lowercase registration.school)
      (some (NameSet.ofList registration.listedNames)) := by
  refine ⟨⟨registration, by simp, rfl, nonempty⟩, ?_⟩
  intro name
  rw [NameSet.mem_ofList]
  constructor
  · intro lists
    exact ⟨registration, by simp, rfl, lists⟩
  · rintro ⟨other, member, ofSchool, lists⟩
    rcases List.mem_append.mp member with old | new
    · rw [Registration.listedNames_eq_nil.mpr (listed other old ofSchool)] at lists
      cases lists
    · rw [← List.mem_singleton.mp new]
      exact lists

theorem listedFor_more {registration : Registration} {names : NameSet}
    (listed : ListedFor registrations (Text.lowercase registration.school) (some names))
    (nonempty : registration.operations ≠ []) :
    ListedFor (registrations ++ [registration]) (Text.lowercase registration.school)
      (some (names.union (NameSet.ofList registration.listedNames))) := by
  refine ⟨⟨registration, by simp, rfl, nonempty⟩, ?_⟩
  intro name
  rw [NameSet.mem_union, NameSet.mem_ofList, listed.2 name]
  constructor
  · rintro (⟨other, old, others⟩ | lists)
    · exact ⟨other, List.mem_append_left _ old, others⟩
    · exact ⟨registration, by simp, rfl, lists⟩
  · rintro ⟨other, member, ofSchool, lists⟩
    rcases List.mem_append.mp member with old | new
    · exact Or.inl ⟨other, old, ofSchool, lists⟩
    · rw [← List.mem_singleton.mp new]
      exact Or.inr lists

/-- One more registration is said by the rules that are made with it. -/
theorem register (registered : Registered registrations rules) (registration : Registration) :
    Registered (registrations ++ [registration]) (rules.register registration) where
  schools name := by
    simp only [CanonRules.register, withSchool, NameSet.mem_insert, registered.schools,
      List.mem_append, List.mem_singleton, or_and_right, exists_or, exists_eq_left]
    rw [or_comm, eq_comm]
  operations name := by
    simp only [CanonRules.register, withSchool, NameSet.mem_union, registered.operations,
      NameSet.mem_ofList, List.mem_append, List.mem_singleton, or_and_right, exists_or,
      exists_eq_left]
    rfl
  listedFor school := by
    have before := registered.listedFor
    simp only [CanonRules.register, withSchool]
    split
    · rename_i none
      exact listedFor_other (before school) fun _ => List.isEmpty_iff.mp none
    · rename_i some
      rw [NameMap.get?_extend]
      split
      · rename_i same
        have nonempty : registration.operations ≠ [] := fun none =>
          some (List.isEmpty_iff.mpr none)
        have old := before (Text.lowercase registration.school)
        rw [same]
        cases found : rules.schoolOperations.get? (Text.lowercase registration.school) with
        | none =>
          rw [found] at old
          exact listedFor_first old nonempty
        | some names =>
          rw [found] at old
          exact listedFor_more old nonempty
      · rename_i other
        exact listedFor_other (before school) fun same => absurd same.symm other

/-- Rules say what their registrations said. -/
theorem ofRegistrations (registrations : List Registration) :
    Registered registrations (CanonRules.ofRegistrations registrations) := by
  -- on the last registration, because the rules are built from the front
  induction registrations using List.reverseRecOn with
  | nil => exact empty
  | append_singleton front registration inductionHypothesis =>
    rw [CanonRules.ofRegistrations, List.foldl_append]
    exact inductionHypothesis.register registration

end Registered
/-! ## What an invocation is checked against -/

section Check

variable {registrations : List Registration} {rules : CanonRules}

theorem Registered.hasSchool (registered : Registered registrations rules) (school : String) :
    rules.hasSchool school = true ↔
      ∃ registration ∈ registrations, Registration.SameName registration.school school := by
  rw [CanonRules.hasSchool, decide_eq_true_iff, registered.schools]
  rfl

theorem Registered.hasOperation (registered : Registered registrations rules)
    (operation : String) :
    rules.hasOperation operation = true ↔
      ∃ registration ∈ registrations, registration.Lists operation := by
  rw [CanonRules.hasOperation, decide_eq_true_iff, registered.operations]
  simp only [Registration.mem_listedNames]

/-- Whether some registration of the school has a list. -/
def HasList (registrations : List Registration) (school : String) : Prop :=
  ∃ registration ∈ registrations,
    Registration.SameName registration.school school ∧ registration.operations ≠ []

/-- Whether some registration of the school lists the operation. -/
def SchoolLists (registrations : List Registration) (school operation : String) : Prop :=
  ∃ registration ∈ registrations,
    Registration.SameName registration.school school ∧ registration.Lists operation

theorem Registered.operationsFor_none (registered : Registered registrations rules)
    {school : String} (found : rules.operationsFor school = none) :
    ¬HasList registrations school := by
  have listed := registered.listedFor (Text.lowercase school)
  rw [CanonRules.operationsFor] at found
  rw [found] at listed
  rintro ⟨registration, member, ofSchool, nonempty⟩
  exact nonempty (listed registration member ofSchool)

theorem Registered.operationsFor_some (registered : Registered registrations rules)
    {school : String} {names : NameSet} (found : rules.operationsFor school = some names) :
    HasList registrations school ∧ ∀ operation,
      Text.lowercase operation ∈ names ↔ SchoolLists registrations school operation := by
  have listed := registered.listedFor (Text.lowercase school)
  rw [CanonRules.operationsFor] at found
  rw [found] at listed
  refine ⟨listed.1, ?_⟩
  intro operation
  rw [listed.2]
  simp only [Registration.mem_listedNames]
  rfl

end Check
end CanonRules

namespace Analysis

open CanonRules

variable {registrations : List Registration} {invocation : Invocation}

/-- How the three checks of an invocation may end, by what was registered: with the
kind of a violation, or with none. -/
inductive Verdict (registrations : List Registration) (invocation : Invocation) :
    Option ViolationKind → Prop where
  | unknownSchool (unknown : ¬∃ registration ∈ registrations,
      Registration.SameName registration.school invocation.school) :
      Verdict registrations invocation (some .unknownSchool)
  | unknownOperation (known : ∃ registration ∈ registrations,
      Registration.SameName registration.school invocation.school)
      (unlisted : ¬∃ registration ∈ registrations, registration.Lists invocation.operation) :
      Verdict registrations invocation (some .unknownOperation)
  | operationNotInSchool (known : ∃ registration ∈ registrations,
      Registration.SameName registration.school invocation.school)
      (listed : ∃ registration ∈ registrations, registration.Lists invocation.operation)
      (hasList : HasList registrations invocation.school)
      (foreign : ¬SchoolLists registrations invocation.school invocation.operation) :
      Verdict registrations invocation (some .operationNotInSchool)
  | accepted (known : ∃ registration ∈ registrations,
      Registration.SameName registration.school invocation.school)
      (listed : ∃ registration ∈ registrations, registration.Lists invocation.operation)
      (allowed : HasList registrations invocation.school →
        SchoolLists registrations invocation.school invocation.operation) :
      Verdict registrations invocation none

theorem verdict_checkInvocation {rules : CanonRules} (registered : Registered registrations rules)
    (invocation : Invocation) :
    Verdict registrations invocation
      ((checkInvocation rules invocation).map Violation.kind) := by
  have school := registered.hasSchool invocation.school
  have operation := registered.hasOperation invocation.operation
  unfold checkInvocation
  cases isSchool : rules.hasSchool invocation.school with
  | false =>
    apply Verdict.unknownSchool
    intro known
    exact Bool.false_ne_true (isSchool.symm.trans (school.mpr known))
  | true =>
    have known := school.mp isSchool
    cases isOperation : rules.hasOperation invocation.operation with
    | false =>
      apply Verdict.unknownOperation known
      intro listed
      exact Bool.false_ne_true (isOperation.symm.trans (operation.mpr listed))
    | true =>
      have listed := operation.mp isOperation
      cases found : rules.operationsFor invocation.school with
      | none =>
        apply Verdict.accepted known listed
        intro hasList
        exact absurd hasList (registered.operationsFor_none found)
      | some names =>
        rcases registered.operationsFor_some found with ⟨hasList, ofSchool⟩
        by_cases allowed : Text.lowercase invocation.operation ∈ names
        · simp only [allowed, if_true]
          apply Verdict.accepted known listed
          intro _
          exact (ofSchool _).mp allowed
        · simp only [allowed, if_false]
          apply Verdict.operationNotInSchool known listed hasList
          intro lists
          exact allowed ((ofSchool _).mpr lists)

namespace Verdict

/-- A list of the school decides, and without one every listed operation will do. -/
theorem eq_none_iff {kind : Option ViolationKind}
    (verdict : Verdict registrations invocation kind) :
    kind = none ↔
      (∃ registration ∈ registrations,
          Registration.SameName registration.school invocation.school) ∧
        (HasList registrations invocation.school →
          SchoolLists registrations invocation.school invocation.operation) ∧
        (¬HasList registrations invocation.school →
          ∃ registration ∈ registrations, registration.Lists invocation.operation) := by
  cases verdict with
  | unknownSchool unknown =>
    apply iff_of_false nofun
    intro accepted
    exact unknown accepted.1
  | unknownOperation known unlisted =>
    apply iff_of_false nofun
    rintro ⟨_, ofList, otherwise⟩
    by_cases hasList : HasList registrations invocation.school
    · rcases ofList hasList with ⟨registration, member, _, lists⟩
      exact unlisted ⟨registration, member, lists⟩
    · exact unlisted (otherwise hasList)
  | operationNotInSchool known listed hasList foreign =>
    apply iff_of_false nofun
    intro accepted
    exact foreign (accepted.2.1 hasList)
  | accepted known listed allowed =>
    exact iff_of_true rfl ⟨known, allowed, fun _ => listed⟩

theorem kind_iff {kind : ViolationKind}
    (verdict : Verdict registrations invocation (some kind)) :
    (kind = .unknownSchool ↔ ¬∃ registration ∈ registrations,
        Registration.SameName registration.school invocation.school) ∧
      (kind = .unknownOperation ↔
        (∃ registration ∈ registrations,
          Registration.SameName registration.school invocation.school) ∧
        ¬∃ registration ∈ registrations, registration.Lists invocation.operation) ∧
      (kind = .operationNotInSchool ↔
        (∃ registration ∈ registrations,
          Registration.SameName registration.school invocation.school) ∧
        ∃ registration ∈ registrations, registration.Lists invocation.operation) := by
  cases verdict with
  | unknownSchool unknown =>
    refine ⟨iff_of_true rfl unknown, iff_of_false nofun ?_, iff_of_false nofun ?_⟩
    · intro both
      exact unknown both.1
    · intro both
      exact unknown both.1
  | unknownOperation known unlisted =>
    refine ⟨iff_of_false nofun ?_, iff_of_true rfl ⟨known, unlisted⟩, iff_of_false nofun ?_⟩
    · intro unknown
      exact unknown known
    · intro both
      exact unlisted both.2
  | operationNotInSchool known listed hasList foreign =>
    refine ⟨iff_of_false nofun ?_, iff_of_false nofun ?_, iff_of_true rfl ⟨known, listed⟩⟩
    · intro unknown
      exact unknown known
    · intro both
      exact both.2 listed

end Verdict

/-- An invocation is accepted or refused by what was registered. -/
theorem checkInvocation_ofRegistrations (registrations : List Registration)
    (invocation : Invocation) :
    (checkInvocation (ofRegistrations registrations) invocation = none ↔
        (∃ registration ∈ registrations,
            Registration.SameName registration.school invocation.school) ∧
          (HasList registrations invocation.school →
            SchoolLists registrations invocation.school invocation.operation) ∧
          (¬HasList registrations invocation.school →
            ∃ registration ∈ registrations, registration.Lists invocation.operation)) ∧
      ∀ violation, checkInvocation (ofRegistrations registrations) invocation = some violation →
        (violation.kind = .unknownSchool ↔ ¬∃ registration ∈ registrations,
            Registration.SameName registration.school invocation.school) ∧
          (violation.kind = .unknownOperation ↔
            (∃ registration ∈ registrations,
              Registration.SameName registration.school invocation.school) ∧
            ¬∃ registration ∈ registrations, registration.Lists invocation.operation) ∧
          (violation.kind = .operationNotInSchool ↔
            (∃ registration ∈ registrations,
              Registration.SameName registration.school invocation.school) ∧
            ∃ registration ∈ registrations, registration.Lists invocation.operation) := by
  have verdict := verdict_checkInvocation (Registered.ofRegistrations registrations) invocation
  constructor
  · rw [← verdict.eq_none_iff, Option.map_eq_none_iff]
  · intro violation found
    rw [found] at verdict
    exact verdict.kind_iff

end Analysis
end Ritual
