import Ritual.RitualError

namespace Ritual

/-!
# Reading texts by path

Rituals and canons are read through a reader, so that a compilation depends on
files only by what they hold.
-/

/-- How the text at a path is read. -/
abbrev Reader := String → Except ReadFailure String

namespace Reader

/-- The text of a ritual.  A missing file is an error of its own. -/
def ritual (reader : Reader) (path : String) : Except RitualError String :=
  match reader path with
  | .ok text => .ok text
  | .error failure =>
    if failure.kind = .notFound then .error (.ritualNotFound path)
    else .error (.unreadable path failure)

end Reader
end Ritual
