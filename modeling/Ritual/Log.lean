import Ritual.Log.Moment

namespace Ritual
namespace Log

/-!
# Log lines

A compilation tells what it does by events.  Which of them are written is not
decided here, and no result depends on them.  When an event is written the clock
is read, and nothing else depends on the time.
-/

/-- How grave an event is, the gravest first. -/
inductive Level where
  | error
  | warn
  | info
  | debug
  | trace
deriving DecidableEq, Repr

namespace Level

/-- The number of a level.  Graver levels have smaller numbers. -/
def rank : Level → Nat
  | error => 1
  | warn => 2
  | info => 3
  | debug => 4
  | trace => 5

/-- The name that a line shows. -/
def name : Level → String
  | error => "ERROR"
  | warn => "WARN"
  | info => "INFO"
  | debug => "DEBUG"
  | trace => "TRACE"

/-- Every level. -/
def all : List Level :=
  [error, warn, info, debug, trace]

end Level

/-- Something that happened: its level, the part of the program that tells it,
a message, and named values. -/
structure Event where
  level : Level
  source : String
  message : String
  fields : List (String × String)
deriving DecidableEq, Repr

/-- The width of the column that shows the level. -/
def levelWidth : Nat := 5

namespace Event

/-- The line of an event that is written at a moment: the stamp, the level at the right of
its column, the message, and the values by name.  The part of the program that tells the
event is not shown.  Lines have colours only on a terminal, which no run here writes to. -/
def line (moment : Moment) (event : Event) : String :=
  " ".intercalate
    (moment.stamp :: String.ofList (event.level.name.toList.leftpad levelWidth ' ') ::
      event.message :: event.fields.map fun field => field.1 ++ "=" ++ field.2)

end Event

/-- The lines of events that are written one after the other, each ended by a line feed.
The clock gives its readings by their number, one for every line. -/
def lines (clock : Nat → Moment) (events : List Event) : String :=
  String.join (events.zipIdx.map fun (event, number) => event.line (clock number) ++ "\n")

end Log
end Ritual
