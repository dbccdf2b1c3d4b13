import Ritual.Violation

namespace Ritual

/-!
# Why a compilation fails

Scanning and parsing are total, so every error comes from reading a file, from
a canon that cannot be understood, or from the analysis.
-/

/-- The cause of a failed read, as far as a caller may act on it. -/
inductive ReadFailure.Kind where
  | notFound
  | permissionDenied
  | invalidData
  | other
deriving DecidableEq, Repr

/-- A failed read with its cause and its words. -/
structure ReadFailure where
  kind : ReadFailure.Kind
  message : String
deriving DecidableEq, Repr

/-- The errors of a compilation. -/
inductive RitualError where
  /-- There is no ritual at the path. -/
  | ritualNotFound (path : String)
  /-- A file exists and cannot be read. -/
  | unreadable (path : String) (failure : ReadFailure)
  /-- The canon at the path is no canon document. -/
  | malformedCanon (path message : String)
  /-- The ritual violates the canon, in every way listed. -/
  | constitutional (violations : List Violation)
deriving DecidableEq, Repr

namespace RitualError

/-- A short name of the cause. -/
def code : RitualError → String
  | ritualNotFound _ => "ritual_not_found"
  | unreadable _ _ => "io"
  | malformedCanon _ _ => "canon"
  | constitutional _ => "constitutional"

/-- Whether the error is about reading a file and not about its content. -/
def isFileError : RitualError → Bool
  | ritualNotFound _ | unreadable _ _ => true
  | malformedCanon _ _ | constitutional _ => false

/-- The violations that the error lists. -/
def violations : RitualError → List Violation
  | constitutional found => found
  | _ => []

/-- The line above a list of violations. -/
def constitutionalHeading : String := "CONSTITUTIONAL VIOLATIONS DETECTED:"

/-- The error in words. -/
def message : RitualError → String
  | ritualNotFound path => "ritual not found: " ++ path
  | unreadable path failure => "cannot read '" ++ path ++ "': " ++ failure.message
  | malformedCanon path reason => "malformed canon rules in '" ++ path ++ "': " ++ reason
  | constitutional found =>
    constitutionalHeading ++ "\n" ++ "\n".intercalate (found.map Violation.message)

/-- The error as a report.  The violations are listed even if there are none. -/
def toJson (error : RitualError) : Json :=
  .object [("error", .text error.code), ("message", .text error.message),
    ("violations", .list (error.violations.map Violation.toJson))]

end RitualError
end Ritual
