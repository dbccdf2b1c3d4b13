import Ritual.NameMap
import Ritual.Text.LowerCase
import Ritual.Text.UpperCase

namespace Ritual

/-!
# The rules of a canon

The rules say which schools there are, which operations each school lists, and
which block types are accepted.  Schools and operations are kept in lower case
and block types in upper case, and questions are put in any case.  Rules are
built from the empty ones school by school; what holds of every value built so
is proved of the construction and is not part of the type.
-/

/-- The rules against which a ritual is checked. -/
structure CanonRules where
  schools : NameSet
  operations : NameSet
  /-- The operations of each school that lists any. -/
  schoolOperations : NameMap
  blockTypes : NameSet
deriving DecidableEq

namespace CanonRules

/-- The block types that are accepted unless a canon lists its own. -/
def defaultBlockTypes : List String :=
  ["PYTHON", "JS", "JAVASCRIPT", "WEB", "QUANTUM", "NATIVE", "BLUEPRINT", "LANGUAGE"]

/-- No schools and the default block types. -/
def empty : CanonRules where
  schools := NameSet.empty
  operations := NameSet.empty
  schoolOperations := NameMap.empty
  blockTypes := NameSet.ofList defaultBlockTypes

/-- Add a school with its operations to the ones it may have.  A school without
operations accepts the operations of all schools, and adding it again without
operations changes nothing. -/
def withSchool (rules : CanonRules) (school : String) (operations : List String) : CanonRules :=
  let school := Text.lowercase school
  let listed := NameSet.ofList (operations.map Text.lowercase)
  { rules with
    schools := rules.schools.insert school
    operations := rules.operations.union listed
    schoolOperations :=
      if operations.isEmpty then rules.schoolOperations
      else rules.schoolOperations.extend school listed }

/-- Accept these block types and no others. -/
def withBlockTypes (rules : CanonRules) (blockTypes : List String) : CanonRules :=
  { rules with blockTypes := NameSet.ofList (blockTypes.map Text.uppercase) }

/-- Whether there is such a school. -/
def hasSchool (rules : CanonRules) (school : String) : Bool :=
  decide (Text.lowercase school ∈ rules.schools)

/-- Whether some school lists such an operation. -/
def hasOperation (rules : CanonRules) (operation : String) : Bool :=
  decide (Text.lowercase operation ∈ rules.operations)

/-- The operations that the school lists, if it lists any. -/
def operationsFor (rules : CanonRules) (school : String) : Option NameSet :=
  rules.schoolOperations.get? (Text.lowercase school)

/-- Whether blocks of the type are accepted. -/
def acceptsBlockType (rules : CanonRules) (blockType : String) : Bool :=
  decide (Text.uppercase blockType ∈ rules.blockTypes)

end CanonRules
end Ritual
