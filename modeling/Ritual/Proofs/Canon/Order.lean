import Mathlib.Data.List.Forall2
import Ritual.Proofs.Canon.Invariant
import Ritual.Proofs.Canon.Registration
import Ritual.Proofs.Lexeme.Grammar

namespace Ritual

/-!
# The order in which rules are built does not matter

Rules are what can be asked of them: which schools and operations there are, which schools
have a list, what the lists say, and which block types are accepted.  A school adds to each
of these and takes nothing away, so schools may be added in any order, in one go or in
several, once or twice, and in any case of letters.  The same is therefore true of the
schools and the operations of a canon document.
-/

/-! ## Maps are told apart by their keys and members -/

/-- Ascending entries with the same keys and the same sets under them are the same. -/
theorem entries_eq_of_lookup {left right : List (String × NameSet)}
    (keys : left.map Prod.fst = right.map Prod.fst)
    (ascending : (left.map Prod.fst).Pairwise (· < ·))
    (same : ∀ key, left.lookup key = right.lookup key) : left = right := by
  induction left generalizing right with
  | nil => exact (List.map_eq_nil_iff.mp keys.symm).symm
  | cons entry rest inductionHypothesis =>
    cases right with
    | nil => cases keys
    | cons other others =>
      rcases entry with ⟨key, set⟩
      rcases other with ⟨otherKey, otherSet⟩
      rcases List.cons.inj keys with ⟨rfl, laterKeys⟩
      rcases List.pairwise_cons.mp ascending with ⟨above, laterAscending⟩
      have sets := same key
      rw [lookup_cons_entry, lookup_cons_entry, if_pos rfl, if_pos rfl] at sets
      obtain rfl := Option.some.inj sets
      rw [inductionHypothesis laterKeys laterAscending]
      intro asked
      by_cases isKey : asked = key
      · subst isKey
        rw [lookup_eq_none_of_below above, lookup_eq_none_of_below (laterKeys ▸ above)]
      · have later := same asked
        rw [lookup_cons_entry, lookup_cons_entry, if_neg isKey, if_neg isKey] at later
        exact later

namespace NameMap

theorem isSome_lookup_iff {entries : List (String × NameSet)} {key : String} :
    (entries.lookup key).isSome = true ↔ key ∈ entries.map Prod.fst := by
  induction entries with
  | nil => simp
  | cons entry rest inductionHypothesis =>
    rcases entry with ⟨head, set⟩
    rw [lookup_cons_entry]
    split
    · rename_i same
      simp [same]
    · rename_i different
      simp [inductionHypothesis, different]

/-- Maps with the same sets under the same keys are equal. -/
theorem ext_get? {left right : NameMap} (same : ∀ key, left.get? key = right.get? key) :
    left = right := by
  rcases left with ⟨left, leftAscending⟩
  rcases right with ⟨right, rightAscending⟩
  have keySets : (⟨left.map Prod.fst, leftAscending⟩ : NameSet) =
      ⟨right.map Prod.fst, rightAscending⟩ := by
    apply NameSet.ext_mem
    intro key
    rw [NameSet.mem_def, NameSet.mem_def, ← isSome_lookup_iff, ← isSome_lookup_iff]
    exact Bool.eq_iff_iff.mp (congrArg Option.isSome (same key))
  have keys : left.map Prod.fst = right.map Prod.fst := congrArg NameSet.toList keySets
  obtain rfl := entries_eq_of_lookup keys leftAscending same
  rfl

/-- Maps with the same keys, under which the same names stand, are equal. -/
theorem ext_lists {left right : NameMap}
    (keys : ∀ key, (left.get? key).isSome = true ↔ (right.get? key).isSome = true)
    (lists : ∀ key name, left.Lists key name ↔ right.Lists key name) : left = right := by
  apply ext_get?
  intro key
  have hasKey := keys key
  have members := lists key
  simp only [Lists] at members
  cases inLeft : left.get? key with
  | none =>
    rw [inLeft] at hasKey
    cases inRight : right.get? key with
    | none => rfl
    | some set =>
      rw [inRight] at hasKey
      exact absurd (hasKey.mpr rfl) (by simp)
  | some set =>
    rw [inLeft] at hasKey members
    rcases Option.isSome_iff_exists.mp (hasKey.mp rfl) with ⟨other, inRight⟩
    rw [inRight] at members ⊢
    simp only [Option.some.injEq, exists_eq_left'] at members ⊢
    exact NameSet.ext_mem members

end NameMap

namespace CanonRules

/-- Rules of which the same can be asked are equal. -/
theorem ext_asked {left right : CanonRules}
    (schools : ∀ school, school ∈ left.schools ↔ school ∈ right.schools)
    (operations : ∀ operation, operation ∈ left.operations ↔ operation ∈ right.operations)
    (keys : ∀ school, (left.schoolOperations.get? school).isSome = true ↔
      (right.schoolOperations.get? school).isSome = true)
    (lists : ∀ school operation, left.schoolOperations.Lists school operation ↔
      right.schoolOperations.Lists school operation)
    (blockTypes : left.blockTypes = right.blockTypes) : left = right := by
  rcases left with ⟨leftSchools, leftOperations, leftMap, leftTypes⟩
  rcases right with ⟨rightSchools, rightOperations, rightMap, rightTypes⟩
  obtain rfl : leftSchools = rightSchools := NameSet.ext_mem schools
  obtain rfl : leftOperations = rightOperations := NameSet.ext_mem operations
  obtain rfl : leftMap = rightMap := NameMap.ext_lists keys lists
  obtain rfl : leftTypes = rightTypes := blockTypes
  rfl

/-! ## The laws of building rules -/

/-- Whether two lists name the same operations, up to the case of letters, whatever their
order and however often. -/
def SameOperations (left right : List String) : Prop :=
  ∀ name, name ∈ left.map Text.lowercase ↔ name ∈ right.map Text.lowercase

theorem SameOperations.ne_nil {left right : List String} (same : SameOperations left right) :
    left ≠ [] ↔ right ≠ [] := by
  have empty : ∀ {names : List String}, names = [] ↔ ∀ name, name ∉ names.map Text.lowercase := by
    intro names
    rw [← List.eq_nil_iff_forall_not_mem, List.map_eq_nil_iff]
  rw [Ne, Ne, empty, empty]
  simp only [same _]

/-- The rules do not tell in which order, in which portions, how often and in which case
schools were added. -/
structure BuiltFreely (rules : CanonRules) : Prop where
  commute : ∀ first second firstOperations secondOperations,
    (rules.withSchool first firstOperations).withSchool second secondOperations =
      (rules.withSchool second secondOperations).withSchool first firstOperations
  portions : ∀ school operations more, rules.withSchool school (operations ++ more) =
    (rules.withSchool school operations).withSchool school more
  again : ∀ school operations,
    (rules.withSchool school operations).withSchool school operations =
      rules.withSchool school operations
  spelling : ∀ school other operations others, Text.lowercase school = Text.lowercase other →
    SameOperations operations others →
      rules.withSchool school operations = rules.withSchool other others
  blockTypes : ∀ school operations blockTypes,
    (rules.withSchool school operations).withBlockTypes blockTypes =
      (rules.withBlockTypes blockTypes).withSchool school operations

theorem builtFreely (rules : CanonRules) : rules.BuiltFreely where
  commute first second firstOperations secondOperations := by
    apply ext_asked
    all_goals simp only [mem_schools_withSchool, mem_operations_withSchool,
      isSome_get?_withSchool, lists_withSchool, blockTypes_withSchool]
    · exact fun school => or_left_comm
    · exact fun operation => or_right_comm
    · exact fun school => or_left_comm
    · exact fun school operation => or_right_comm
  portions school operations more := by
    apply ext_asked
    all_goals simp only [mem_schools_withSchool, mem_operations_withSchool,
      isSome_get?_withSchool, lists_withSchool, blockTypes_withSchool, List.map_append,
      List.mem_append, List.append_eq_nil_iff, ne_eq, not_and_or]
    · grind
    · grind
    · grind
    · grind
  again school operations := by
    apply ext_asked
    all_goals simp only [mem_schools_withSchool, mem_operations_withSchool,
      isSome_get?_withSchool, lists_withSchool, blockTypes_withSchool]
    · grind
    · grind
    · grind
    · grind
  spelling school other operations others sameSchool sameOperations := by
    apply ext_asked
    all_goals simp only [mem_schools_withSchool, mem_operations_withSchool,
      isSome_get?_withSchool, lists_withSchool, blockTypes_withSchool, sameSchool,
      sameOperations _, sameOperations.ne_nil, implies_true]
  blockTypes _ _ _ := rfl

end CanonRules

/-! ## Registrations in any order -/

/-- Whether two registrations register the same operations for the same school. -/
structure Registration.SameAs (left right : Registration) : Prop where
  school : SameName left.school right.school
  operations : CanonRules.SameOperations left.operations right.operations

namespace CanonRules

theorem foldl_register_perm {first second : List Registration} (perm : first.Perm second)
    (rules : CanonRules) : first.foldl register rules = second.foldl register rules := by
  apply perm.foldl_eq'
  intro left _ right _ rules
  exact (builtFreely rules).commute _ _ _ _

theorem foldl_register_congr {first second : List Registration}
    (same : List.Forall₂ Registration.SameAs first second) (rules : CanonRules) :
    first.foldl register rules = second.foldl register rules := by
  induction same generalizing rules with
  | nil => rfl
  | cons here _ inductionHypothesis =>
    rw [List.foldl_cons, List.foldl_cons, register, register,
      (builtFreely rules).spelling _ _ _ _ here.school here.operations, inductionHypothesis]

end CanonRules

/-! ## What a document registers -/

namespace SchoolEntry

/-- The name of a school: the given one if not all of it is white space, and else its key. -/
inductive Titled (entry : SchoolEntry) : String → Prop where
  | byName {name : String} (given : entry.name = some name)
      (visible : ∃ char ∈ name.toList, Text.isWhiteSpace char = false) : Titled entry name
  | byKey (blank : ∀ name, entry.name = some name →
      ∀ char ∈ name.toList, Text.isWhiteSpace char = true) : Titled entry entry.key

/-- The operations among some names: of every name with a colon what stands behind the first
one, in order, and of the other names nothing. -/
inductive Parted : List String → List String → Prop where
  | nil : Parted [] []
  | colon {name operation : String} {names operations : List String} {before : List Char}
      (parts : name.toList = before ++ ':' :: operation.toList) (first : ':' ∉ before)
      (rest : Parted names operations) : Parted (name :: names) (operation :: operations)
  | noColon {name : String} {names operations : List String} (none : ':' ∉ name.toList)
      (rest : Parted names operations) : Parted (name :: names) operations

/-- What an entry of a document registers. -/
structure Registers (entry : SchoolEntry) (registration : Registration) : Prop where
  school : entry.Titled registration.school
  operations : Parted entry.operationNames registration.operations

variable {entry : SchoolEntry}

theorem titled_iff {title : String} : entry.Titled title ↔ title = entry.title := by
  constructor
  · intro titled
    cases titled with
    | byName given visible =>
      rcases visible with ⟨char, listed, visible⟩
      have notBlank : Text.isBlank title = false :=
        List.all_eq_false.mpr ⟨char, listed, by simp [visible]⟩
      simp [SchoolEntry.title, given, notBlank]
    | byKey blank =>
      unfold SchoolEntry.title
      split
      · rename_i name given
        have isBlank : Text.isBlank name = true := List.all_eq_true.mpr (blank name given)
        rw [if_pos isBlank]
      · rfl
  · rintro rfl
    unfold SchoolEntry.title
    split
    · rename_i name given
      split
      · rename_i isBlank
        apply Titled.byKey
        intro other found
        obtain rfl := Option.some.inj (given.symm.trans found)
        exact List.all_eq_true.mp isBlank
      · rename_i notBlank
        simp only [Text.isBlank, List.all_eq_true, not_forall, Bool.not_eq_true] at notBlank
        rcases notBlank with ⟨char, listed, visible⟩
        exact .byName given ⟨char, listed, visible⟩
    · rename_i none
      apply Titled.byKey
      intro other found
      rw [none] at found
      cases found

theorem afterColon?_of_colon {name operation : String} {before : List Char}
    (parts : name.toList = before ++ ':' :: operation.toList) (first : ':' ∉ before) :
    afterColon? name = some operation := by
  have inside := Lexeme.not_mem_iff_bne.mp first
  have stops : Lexeme.Stops (· != ':') (':' :: operation.toList) := Lexeme.stops_cons.mpr rfl
  rw [afterColon?, parts, Lexeme.dropWhile_of_stops inside stops]
  simp

theorem afterColon?_of_noColon {name : String} (none : ':' ∉ name.toList) :
    afterColon? name = Option.none := by
  have inside := Lexeme.dropWhile_of_stops (Lexeme.not_mem_iff_bne.mp none) (Lexeme.stops_nil _)
  rw [List.append_nil] at inside
  rw [afterColon?, inside]

theorem exists_before_colon {name : String} (colon : ':' ∈ name.toList) :
    ∃ (before : List Char) (operation : String),
      name.toList = before ++ ':' :: operation.toList ∧ ':' ∉ before := by
  rcases Lexeme.exists_run (· != ':') name.toList with ⟨before, after, parts, inside, stops⟩
  have first := Lexeme.not_mem_iff_bne.mpr inside
  rw [parts] at colon
  cases after with
  | nil => exact absurd (List.append_nil before ▸ colon) first
  | cons char rest =>
    obtain rfl : char = ':' := by simpa using Lexeme.stops_cons.mp stops
    exact ⟨before, String.ofList rest, by simpa using parts, first⟩

theorem parted_iff {names operations : List String} :
    Parted names operations ↔ operations = names.filterMap afterColon? := by
  constructor
  · intro parted
    induction parted with
    | nil => rfl
    | colon parts first _ inductionHypothesis =>
      rw [List.filterMap_cons_some (afterColon?_of_colon parts first), inductionHypothesis]
    | noColon none _ inductionHypothesis =>
      rw [List.filterMap_cons_none (afterColon?_of_noColon none), inductionHypothesis]
  · rintro rfl
    induction names with
    | nil => exact .nil
    | cons name names inductionHypothesis =>
      by_cases colon : ':' ∈ name.toList
      · rcases exists_before_colon colon with ⟨before, operation, parts, first⟩
        rw [List.filterMap_cons_some (afterColon?_of_colon parts first)]
        exact .colon parts first inductionHypothesis
      · rw [List.filterMap_cons_none (afterColon?_of_noColon colon)]
        exact .noColon colon inductionHypothesis

/-- The registration of an entry. -/
def registration (entry : SchoolEntry) : Registration :=
  ⟨entry.title, entry.operations⟩

theorem registers_iff {registration : Registration} :
    entry.Registers registration ↔ entry.registration = registration := by
  constructor
  · rintro ⟨school, operations⟩
    rcases registration with ⟨title, listed⟩
    obtain rfl : title = entry.title := titled_iff.mp school
    obtain rfl : listed = entry.operations := parted_iff.mp operations
    rfl
  · rintro rfl
    exact ⟨titled_iff.mpr rfl, parted_iff.mpr rfl⟩

theorem forall₂_registers_iff {entries : List SchoolEntry} {registrations : List Registration} :
    List.Forall₂ Registers entries registrations ↔
      registrations = entries.map registration := by
  have related : Registers = fun entry registration => entry.registration = registration :=
    funext₂ fun _ _ => propext registers_iff
  rw [related, ← List.forall₂_map_left_iff (R := Eq), List.forall₂_eq_eq_eq, eq_comm]

/-- Whether two entries are the same but for the order and the number of their
operations. -/
structure SameEntry (left right : SchoolEntry) : Prop where
  key : left.key = right.key
  name : left.name = right.name
  operationNames : ∀ name, name ∈ left.operationNames ↔ name ∈ right.operationNames

theorem SameEntry.sameAs {left right : SchoolEntry} (same : left.SameEntry right) :
    left.registration.SameAs right.registration where
  school := by
    have titles : left.title = right.title := by
      rw [title, title, same.key, same.name]
    exact congrArg Text.lowercase titles
  operations := by
    intro name
    simp only [registration, operations, List.mem_map, List.mem_filterMap, same.operationNames]

end SchoolEntry

namespace CanonDocument

/-- Whether two documents list the same schools but for the order of the schools and of
their operations, and the number of the latter. -/
def Rearranged (left right : CanonDocument) : Prop :=
  left.blockTypes = right.blockTypes ∧
    ∃ schools, left.schools.Perm schools ∧
      List.Forall₂ SchoolEntry.SameEntry schools right.schools

/-- The rules of a document are made of what its entries register. -/
theorem rules_eq (document : CanonDocument) :
    document.rules = match document.blockTypes with
      | some blockTypes => (CanonRules.ofRegistrations
          (document.schools.map SchoolEntry.registration)).withBlockTypes blockTypes
      | none => CanonRules.ofRegistrations (document.schools.map SchoolEntry.registration) := by
  rw [CanonRules.ofRegistrations, List.foldl_map]
  rfl

theorem Rearranged.rules_eq {left right : CanonDocument} (rearranged : left.Rearranged right) :
    left.rules = right.rules := by
  rcases rearranged with ⟨blockTypes, schools, perm, same⟩
  have entries : List.Forall₂ Registration.SameAs (schools.map SchoolEntry.registration)
      (right.schools.map SchoolEntry.registration) := by
    apply List.forall₂_map_left_iff.mpr
    apply List.forall₂_map_right_iff.mpr
    exact same.imp fun left right entry => entry.sameAs
  have registered :
      CanonRules.ofRegistrations (left.schools.map SchoolEntry.registration) =
        CanonRules.ofRegistrations (right.schools.map SchoolEntry.registration) :=
    (CanonRules.foldl_register_perm (perm.map _) _).trans
      (CanonRules.foldl_register_congr entries _)
  rw [CanonDocument.rules_eq, CanonDocument.rules_eq, blockTypes, registered]

end CanonDocument

namespace CanonRules

/-- Rules do not tell how schools were added.  A document that is accepted lays down the
rules of the registrations that its entries make, with its own block types if it lists any;
so its schools and their operations may be written in any order, and operations twice. -/
theorem built_in_any_order :
    (∀ rules : CanonRules, rules.BuiltFreely) ∧
      (∀ text rules, ofYaml text = .ok rules ↔
        ∃ document registrations, CanonDocument.ofYaml text = .ok document ∧
          List.Forall₂ SchoolEntry.Registers document.schools registrations ∧
          rules = match document.blockTypes with
            | some blockTypes => (ofRegistrations registrations).withBlockTypes blockTypes
            | none => ofRegistrations registrations) ∧
      ∀ text other document rearranged, CanonDocument.ofYaml text = .ok document →
        CanonDocument.ofYaml other = .ok rearranged → document.Rearranged rearranged →
          ∃ rules, ofYaml text = .ok rules ∧ ofYaml other = .ok rules := by
  refine ⟨builtFreely, ?_, ?_⟩
  · intro text rules
    simp only [ofYaml_eq_ok_iff, SchoolEntry.forall₂_registers_iff, CanonDocument.rules_eq,
      exists_and_left, exists_eq_left]
  · intro text other document rearranged read otherRead same
    exact ⟨document.rules, ofYaml_eq_ok_iff.mpr ⟨document, read, rfl⟩,
      ofYaml_eq_ok_iff.mpr ⟨rearranged, otherRead, same.rules_eq⟩⟩

/-- Two schools change places, and one of them lists an operation twice. -/
theorem built_in_any_order_swapped :
    ∃ rules,
      ofYaml ("schools:\n  Fire:\n    law:\n      operations:\n        - name: a:b:c\n" ++
        "        - name: Fire\n  Ice:\n    name: Frost\n") = .ok rules ∧
      ofYaml ("schools:\n  Ice:\n    name: Frost\n  Fire:\n    law:\n      operations:\n" ++
        "        - name: Fire\n        - name: a:b:c\n        - name: a:b:c\n") = .ok rules := by
  let ice : SchoolEntry := ⟨"Ice", some "Frost", []⟩
  let fire : SchoolEntry := ⟨"Fire", none, ["a:b:c", "Fire"]⟩
  let again : SchoolEntry := ⟨"Fire", none, ["Fire", "a:b:c", "a:b:c"]⟩
  apply built_in_any_order.2.2 _ _ ⟨[fire, ice], none⟩ ⟨[ice, again], none⟩
  · exact document_of_toOption (by decide +kernel)
  · exact document_of_toOption (by decide +kernel)
  · have iceSame : ice.SameEntry ice := ⟨rfl, rfl, fun _ => Iff.rfl⟩
    have fireSame : fire.SameEntry again := ⟨rfl, rfl, by simp [fire, again, or_comm]⟩
    exact ⟨rfl, [ice, fire], .swap ice fire [], .cons iceSame (.cons fireSame .nil)⟩

end CanonRules
end Ritual
