import Ritual.Json
import Ritual.Source.Position

namespace Ritual

/-!
# Violations of the canon

A violation says which check failed, where, and in words.  The words are fixed
when the violation is made, with the location in front if there is one.
-/

/-- The check that failed. -/
inductive ViolationKind where
  | unknownSchool
  | unknownOperation
  | operationNotInSchool
  | unknownBlockType
deriving DecidableEq, Repr

namespace ViolationKind

/-- Every kind. -/
def all : List ViolationKind :=
  [unknownSchool, unknownOperation, operationNotInSchool, unknownBlockType]

/-- The name under which a kind is stored. -/
def name : ViolationKind → String
  | unknownSchool => "unknown_school"
  | unknownOperation => "unknown_operation"
  | operationNotInSchool => "operation_not_in_school"
  | unknownBlockType => "unknown_block_type"

/-- The kind with a given name. -/
def ofName? (text : String) : Option ViolationKind :=
  all.find? fun kind => kind.name == text

end ViolationKind

/-- One violation. -/
structure Violation where
  kind : ViolationKind
  location : Option Source.Location
  message : String
deriving DecidableEq, Repr

namespace Violation

/-- What precedes the detail of a violation. -/
def heading : Option Source.Location → String
  | some location =>
    "Constitutional violation at L" ++ toString location.line.toNat ++ ":C" ++
      toString location.column.toNat ++ ": "
  | none => "Constitutional violation: "

/-- The violation of a check with a detail in words. -/
def ofDetail (kind : ViolationKind) (location : Option Source.Location) (detail : String) :
    Violation :=
  ⟨kind, location, heading location ++ detail⟩

/-- The fields of a violation in the order of their names.  The line and the
column are left out together. -/
def toJson (violation : Violation) : Json :=
  match violation.location with
  | some location =>
    .object [("column", .number location.column.toNat), ("kind", .text violation.kind.name),
      ("line", .number location.line.toNat), ("message", .text violation.message)]
  | none => .object [("kind", .text violation.kind.name), ("message", .text violation.message)]

end Violation
end Ritual
