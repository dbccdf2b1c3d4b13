import Ritual.Canon.Document
import Ritual.Proofs.Text.Idempotence

namespace Ritual

/-!
# What holds of all rules that can be built

The sets and the map of the rules are kept in step by every way to build rules, from
nothing or from a document, school by school and list of block types by list.  Names
are stored in the case in which they are looked up, so the case of a question does
not matter.
-/

namespace NameMap

/-- Whether a name stands in the set under a key. -/
def Lists (map : NameMap) (key name : String) : Prop :=
  ∃ names, map.get? key = some names ∧ name ∈ names

variable {map : NameMap} {key other name : String} {names : NameSet}

theorem isSome_get?_extend :
    ((map.extend key names).get? other).isSome = true ↔
      other = key ∨ (map.get? other).isSome = true := by
  rw [get?_extend]
  split
  · rename_i same
    simp [same]
  · rename_i different
    simp [different]

theorem lists_extend :
    (map.extend key names).Lists other name ↔
      map.Lists other name ∨ (other = key ∧ name ∈ names) := by
  rw [Lists, get?_extend]
  split
  · rename_i same
    subst same
    rw [Lists]
    cases map.get? other with
    | none => simp
    | some old => simp
  · rename_i different
    simp [Lists, different]

end NameMap

namespace CanonRules

/-! ## What a school adds -/

section Added

variable {rules : CanonRules} {school name : String} {operations : List String}

@[simp] theorem mem_schools_withSchool : name ∈ (rules.withSchool school operations).schools ↔
    name = Text.lowercase school ∨ name ∈ rules.schools := by
  rw [withSchool, NameSet.mem_insert]

@[simp] theorem mem_operations_withSchool :
    name ∈ (rules.withSchool school operations).operations ↔
      name ∈ rules.operations ∨ name ∈ operations.map Text.lowercase := by
  rw [withSchool, NameSet.mem_union, NameSet.mem_ofList]

@[simp] theorem isSome_get?_withSchool :
    ((rules.withSchool school operations).schoolOperations.get? name).isSome = true ↔
      name = Text.lowercase school ∧ operations ≠ [] ∨
        (rules.schoolOperations.get? name).isSome = true := by
  simp only [withSchool]
  split
  · rename_i none
    simp [List.isEmpty_iff.mp none]
  · rename_i some
    have nonempty : operations ≠ [] := fun none => some (List.isEmpty_iff.mpr none)
    rw [NameMap.isSome_get?_extend]
    simp [nonempty]

@[simp] theorem blockTypes_withSchool :
    (rules.withSchool school operations).blockTypes = rules.blockTypes := rfl

end Added

/-- What schools list after one more school: what they listed, and for the new school
what it is added with. -/
theorem lists_withSchool {rules : CanonRules} {school other operation : String}
    {operations : List String} :
    (rules.withSchool school operations).schoolOperations.Lists other operation ↔
      rules.schoolOperations.Lists other operation ∨
        (other = Text.lowercase school ∧ operation ∈ operations.map Text.lowercase) := by
  simp only [withSchool]
  split
  · rename_i none
    rw [List.isEmpty_iff.mp none]
    simp
  · rw [NameMap.lists_extend, NameSet.mem_ofList]

/-- Rules whose sets and map agree and whose names are stored in their own case. -/
structure Coherent (rules : CanonRules) : Prop where
  /-- Only schools list operations. -/
  keys : ∀ school, (rules.schoolOperations.get? school).isSome = true → school ∈ rules.schools
  /-- A school that lists operations lists at least one. -/
  nonempty : ∀ school names, rules.schoolOperations.get? school = some names →
    ∃ operation, operation ∈ names
  /-- The operations are those that some school lists. -/
  operations : ∀ operation, operation ∈ rules.operations ↔
    ∃ school, rules.schoolOperations.Lists school operation
  schoolsLower : ∀ school ∈ rules.schools, Text.lowercase school = school
  operationsLower : ∀ operation ∈ rules.operations, Text.lowercase operation = operation
  blockTypesUpper : ∀ blockType ∈ rules.blockTypes, Text.uppercase blockType = blockType

namespace Coherent

variable {rules : CanonRules}

theorem empty : Coherent CanonRules.empty where
  keys := by simp [CanonRules.empty]
  nonempty := by simp [CanonRules.empty]
  operations := by simp [CanonRules.empty, NameMap.Lists]
  schoolsLower := by simp [CanonRules.empty]
  operationsLower := by simp [CanonRules.empty]
  blockTypesUpper := by
    simp only [CanonRules.empty, NameSet.mem_ofList]
    exact Text.forall_of_all (by decide +kernel)

theorem nonempty_withSchool (coherent : rules.Coherent) {school other : String}
    {operations : List String} {names : NameSet}
    (found : (rules.withSchool school operations).schoolOperations.get? other = some names) :
    ∃ operation, operation ∈ names := by
  simp only [CanonRules.withSchool] at found
  split at found
  · exact coherent.nonempty other names found
  · rename_i some
    rcases List.exists_mem_of_ne_nil _ fun none => some (List.isEmpty_iff.mpr none) with
      ⟨operation, given⟩
    have listed : Text.lowercase operation ∈ operations.map Text.lowercase :=
      List.mem_map_of_mem given
    rw [NameMap.get?_extend] at found
    split at found
    · refine ⟨Text.lowercase operation, ?_⟩
      obtain rfl := Option.some.inj found
      cases rules.schoolOperations.get? (Text.lowercase school) with
      | none => simpa using listed
      | some old => simpa using Or.inr ⟨operation, given, rfl⟩
    · exact coherent.nonempty other names found

/-- One more school keeps the rules coherent, with operations or without. -/
theorem withSchool (coherent : rules.Coherent) (school : String) (operations : List String) :
    (rules.withSchool school operations).Coherent where
  keys other found :=
    mem_schools_withSchool.mpr
      ((isSome_get?_withSchool.mp found).imp And.left (coherent.keys other))
  nonempty other names found := coherent.nonempty_withSchool found
  operations operation := by
    simp only [lists_withSchool, exists_or, exists_and_right, exists_eq, true_and,
      ← coherent.operations operation, mem_operations_withSchool]
  schoolsLower other listed := by
    rcases mem_schools_withSchool.mp listed with rfl | old
    · apply Text.lowercase_lowercase
    · exact coherent.schoolsLower other old
  operationsLower operation listed := by
    rcases mem_operations_withSchool.mp listed with old | new
    · exact coherent.operationsLower operation old
    · rcases List.mem_map.mp new with ⟨given, _, rfl⟩
      apply Text.lowercase_lowercase
  blockTypesUpper := coherent.blockTypesUpper

theorem withBlockTypes (coherent : rules.Coherent) (blockTypes : List String) :
    (rules.withBlockTypes blockTypes).Coherent where
  keys := coherent.keys
  nonempty := coherent.nonempty
  operations := coherent.operations
  schoolsLower := coherent.schoolsLower
  operationsLower := coherent.operationsLower
  blockTypesUpper blockType listed := by
    rw [CanonRules.withBlockTypes, NameSet.mem_ofList] at listed
    rcases List.mem_map.mp listed with ⟨given, _, rfl⟩
    apply Text.uppercase_uppercase

/-- A document's rules are built from nothing, school by school. -/
theorem ofDocument (document : CanonDocument) : document.rules.Coherent := by
  have schools : (document.schools.foldl
      (fun rules entry => rules.withSchool entry.title entry.operations)
      CanonRules.empty).Coherent := by
    apply List.foldlRecOn
    · exact empty
    · intro rules coherent entry _
      exact coherent.withSchool entry.title entry.operations
  rw [CanonDocument.rules]
  split
  · exact schools.withBlockTypes _
  · exact schools

end Coherent

/-- The rules that can be had: the empty ones, those of an accepted document, and what
more schools and other block types make of rules that can be had. -/
inductive Reachable : CanonRules → Prop where
  | empty : Reachable empty
  | document {text : String} {rules : CanonRules} (accepted : ofYaml text = .ok rules) :
      Reachable rules
  | withSchool {rules : CanonRules} (reachable : Reachable rules) (school : String)
      (operations : List String) : Reachable (rules.withSchool school operations)
  | withBlockTypes {rules : CanonRules} (reachable : Reachable rules)
      (blockTypes : List String) : Reachable (rules.withBlockTypes blockTypes)

/-- A text has the rules of its document, and none if it holds no document. -/
theorem ofYaml_eq_ok_iff {text : String} {rules : CanonRules} :
    ofYaml text = .ok rules ↔
      ∃ document, CanonDocument.ofYaml text = .ok document ∧ rules = document.rules := by
  rw [ofYaml]
  cases CanonDocument.ofYaml text with
  | error refusal => simp [Except.map]
  | ok document => simp [Except.map, eq_comm]

theorem Reachable.coherent {rules : CanonRules} (reachable : Reachable rules) :
    rules.Coherent := by
  induction reachable with
  | empty => exact Coherent.empty
  | @document text rules accepted =>
    rcases ofYaml_eq_ok_iff.mp accepted with ⟨document, _, rfl⟩
    exact Coherent.ofDocument document
  | withSchool _ school operations inductionHypothesis =>
    exact inductionHypothesis.withSchool school operations
  | withBlockTypes _ blockTypes inductionHypothesis =>
    exact inductionHypothesis.withBlockTypes blockTypes

/-- Whether the answers to the four questions do not depend on the case of the names. -/
structure CaseBlind (rules : CanonRules) : Prop where
  hasSchool : ∀ school, rules.hasSchool (Text.lowercase school) = rules.hasSchool school
  hasOperation : ∀ operation,
    rules.hasOperation (Text.lowercase operation) = rules.hasOperation operation
  operationsFor : ∀ school,
    rules.operationsFor (Text.lowercase school) = rules.operationsFor school
  acceptsBlockType : ∀ blockType,
    rules.acceptsBlockType (Text.uppercase blockType) = rules.acceptsBlockType blockType

theorem caseBlind (rules : CanonRules) : rules.CaseBlind where
  hasSchool school := by rw [hasSchool, hasSchool, Text.lowercase_lowercase]
  hasOperation operation := by rw [hasOperation, hasOperation, Text.lowercase_lowercase]
  operationsFor school := by rw [operationsFor, operationsFor, Text.lowercase_lowercase]
  acceptsBlockType blockType := by
    rw [acceptsBlockType, acceptsBlockType, Text.uppercase_uppercase]

/-- All rules that can be had are coherent, and the case of a question does not matter. -/
theorem coherent_of_reachable {rules : CanonRules} (reachable : Reachable rules) :
    rules.Coherent ∧ rules.CaseBlind :=
  ⟨reachable.coherent, rules.caseBlind⟩

theorem document_of_toOption {text : String} {document : CanonDocument}
    (read : (CanonDocument.ofYaml text).toOption = some document) :
    CanonDocument.ofYaml text = .ok document := by
  cases result : CanonDocument.ofYaml text with
  | error refusal =>
    rw [result] at read
    cases read
  | ok other =>
    rw [result] at read
    obtain rfl := Option.some.inj read
    rfl

theorem ofYaml_of_toOption {text : String} {document : CanonDocument}
    (read : (CanonDocument.ofYaml text).toOption = some document) :
    ofYaml text = .ok document.rules :=
  ofYaml_eq_ok_iff.mpr ⟨document, document_of_toOption read, rfl⟩

/-- The rules of a document, with a school without operations and a block type added. -/
theorem coherent_of_read_document :
    ∃ rules : CanonRules, rules.hasSchool "ICE" = true ∧ rules.hasOperation "Ignite" = true ∧
      rules.acceptsBlockType "strasse" = true ∧ rules.Coherent ∧ rules.CaseBlind := by
  let document : CanonDocument := ⟨[⟨"Fire", none, ["Fire:Ignite"]⟩], none⟩
  have read : (CanonDocument.ofYaml
      "schools:\n  Fire:\n    law:\n      operations:\n        - name: Fire:Ignite\n").toOption =
      some document := by
    decide +kernel
  have accepted := Reachable.document (ofYaml_of_toOption read)
  have reachable := (accepted.withSchool "Ice" []).withBlockTypes ["straße"]
  refine ⟨_, ?_, ?_, ?_, coherent_of_reachable reachable⟩
  all_goals decide +kernel

end CanonRules
end Ritual
