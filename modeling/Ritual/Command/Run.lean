import Ritual.Command.Arguments
import Ritual.Log.Filter
import Ritual.Log.Progress

namespace Ritual
namespace Command

/-!
# Running a command line

A run is a function of the arguments and of what surrounds the program.  Its
results go to the output, and everything else that it writes goes beside: log
lines, dumps and errors.  A run that fails writes no result.  The clock is read
once for every log line, and for nothing else.
-/

/-- What surrounds the program: the files, its own path, two settings of the
environment, the time, and the words of the argument parser. -/
structure Surroundings where
  read : Reader
  isFile : String → Bool
  /-- The absolute path of the program. -/
  program : String
  /-- The path of the canon, if the environment gives one. -/
  canonPath : Option String
  /-- Which events are to be written, if the environment says so. -/
  logFilter : Option String
  /-- The readings of the clock, by their number. -/
  clock : Nat → Log.Moment
  /-- What the argument parser writes when it stops at a command line: the help that is
  asked for, or why the arguments cannot be followed.  Its words are its own, and nothing
  is known of them here. -/
  parserText : List String → String

/-- What a run leaves behind. -/
structure Outcome where
  code : Nat
  output : String
  errors : String
deriving DecidableEq, Repr

namespace Outcome

/-- A run that succeeds. -/
def success (output errors : String) : Outcome := ⟨0, output, errors⟩

/-- A run that fails. -/
def failure (errors : String) : Outcome := ⟨1, "", errors⟩

/-- A run whose arguments cannot be followed. -/
def refusal (errors : String) : Outcome := ⟨2, "", errors⟩

end Outcome

/-! ## Texts -/

/-- The name of the program and its version. -/
def versionLine : String := "codecraft 0.1.0\n"

/-- How the program is called, which is shown if no command is given. -/
def usage : String :=
  "Usage: codecraft [OPTIONS] <RITUAL>\n       codecraft [OPTIONS] <COMMAND>\n"

/-- The lines that show tokens, and their number. -/
def tokenLines (tokens : List Token) : String :=
  String.join (tokens.map fun token => token.display ++ "\n") ++
    "TOTAL TOKENS: " ++ toString tokens.length ++ "\n"

/-- The dump of a source's tokens. -/
def tokenDump (source : String) : String :=
  "=== TOKENS ===\n" ++ tokenLines (Token.tokenize source)

/-- A token as a report. -/
def tokenToJson (token : Token) : Json :=
  .object [("kind", .text token.kind.name), ("text", .text token.text),
    ("line", .number token.location.line.toNat), ("column", .number token.location.column.toNat),
    ("span", .object [("start", .number token.span.start), ("end", .number token.span.stop)])]

/-- An error in the format of the run.  Errors of reading a ritual or a canon
file are told apart from the others. -/
def errorText (format : Format) (error : RitualError) : String :=
  match format with
  | .json => error.toJson.document
  | .text => (if error.isFileError then "ERROR: " else "PARSE ERROR: ") ++ error.message ++ "\n"

/-- The width of the column that shows the schools. -/
def schoolWidth : Nat := 16

/-- The line of a school in the summary of a canon. -/
def schoolLine (rules : CanonRules) (school : String) : String :=
  let operations :=
    match rules.operationsFor school with
    | some listed => listed.listing
    | none => "(any operation)"
  "  " ++ String.ofList (school.toList.rightpad schoolWidth ' ') ++ " " ++ operations ++ "\n"

/-- The summary of the rules at a place. -/
def canonSummary (format : Format) (location : CanonLocation) (rules : CanonRules) : String :=
  let texts (names : NameSet) : Json := .list (names.toList.map .text)
  match format with
  | .json =>
    Json.document (.object [("block_types", texts rules.blockTypes),
      ("operations", texts rules.operations), ("path", .text location.text),
      ("schools", texts rules.schools)])
  | .text =>
    "canon: " ++ location.text ++ "\n" ++
      toString rules.schools.size ++ " schools, " ++ toString rules.operations.size ++
      " operations\n" ++ String.join (rules.schools.toList.map (schoolLine rules)) ++
      "block types: " ++ rules.blockTypes.listing ++ "\n"

/-- The notice that there is no canon at a place.  A quiet run writes it only as
JSON. -/
def canonMissing (format : Format) (quiet : Bool) (location : CanonLocation) : String :=
  let notice := "error: canon rules not found: " ++ location.text
  match format with
  | .json => Json.compact (.object [("error", .text notice)]) ++ "\n"
  | .text => if quiet then "" else notice ++ "\n"

/-! ## Commands -/

/-- The place of the canon for a run. -/
def canonLocation (surroundings : Surroundings) (given : Option String) : CanonLocation :=
  CanonLocation.choose given surroundings.canonPath
    ((CanonLocation.candidates surroundings.program).find? surroundings.isFile)

/-- The log lines that a run writes. -/
def logged (surroundings : Surroundings) (quiet : Bool) (events : List Log.Event) : String :=
  let filter := Log.Filter.ofRun quiet surroundings.logFilter
  Log.lines surroundings.clock (events.filter filter.admits)

/-- Compile a ritual, when something is already written beside the output. -/
def compileAfter (surroundings : Surroundings) (request : Request) (ritual : String)
    (mode : Line.Reconstruction) (written : String) : Outcome :=
  let location := canonLocation surroundings request.canon
  let events := Log.ofCompilation surroundings.read location mode ritual
  match Compilation.compile surroundings.read location mode ritual with
  | .ok schema =>
    .success schema.toJson.document
      (written ++ logged surroundings request.quiet (events ++ [Log.ritualCompiled schema]))
  | .error error =>
    .failure
      (written ++ logged surroundings request.quiet events ++ errorText request.format error)

/-- Compile a ritual, perhaps after a dump of its tokens.  The dump reads the ritual for
itself, and if it cannot there is no compilation. -/
def compile (surroundings : Surroundings) (request : Request) (ritual : String)
    (mode : Line.Reconstruction) (debugTokens : Bool) : Outcome :=
  if debugTokens then
    match surroundings.read.ritual ritual with
    | .ok source => compileAfter surroundings request ritual mode (tokenDump source)
    | .error error => .failure (errorText request.format error)
  else compileAfter surroundings request ritual mode ""

/-- Show the tokens of a ritual. -/
def tokens (surroundings : Surroundings) (request : Request) (ritual : String) : Outcome :=
  match surroundings.read.ritual ritual with
  | .ok source =>
    let found := Token.tokenize source
    match request.format with
    | .json => .success (Json.document (.list (found.map tokenToJson))) ""
    | .text => .success (tokenLines found) ""
  | .error error => .failure (errorText request.format error)

/-- Summarise the canon. -/
def canon (surroundings : Surroundings) (request : Request) : Outcome :=
  let location := canonLocation surroundings request.canon
  let log := logged surroundings request.quiet (Log.ofLoading surroundings.read location)
  match location.load surroundings.read with
  | .ok (some rules) => .success (canonSummary request.format location rules) log
  | .ok none => .failure (log ++ canonMissing request.format request.quiet location)
  | .error error => .failure (log ++ errorText request.format error)

/-- Do what is requested. -/
def perform (surroundings : Surroundings) (request : Request) : Outcome :=
  match request.action with
  | .compile ritual mode debugTokens => compile surroundings request ritual mode debugTokens
  | .tokens ritual => tokens surroundings request ritual
  | .canon => canon surroundings request
  | .usage => .failure usage

/-- Run a command line.  Help that is asked for is a result, and arguments that cannot
be followed are told beside the output. -/
def run (surroundings : Surroundings) (arguments : List String) : Outcome :=
  match Request.ofArguments surroundings.canonPath arguments with
  | .ok request => perform surroundings request
  | .error .help => .success (surroundings.parserText arguments) ""
  | .error .version => .success versionLine ""
  | .error .refused => .refusal (surroundings.parserText arguments)

/-- The paths that a run may read. -/
def pathsRead (surroundings : Surroundings) (arguments : List String) : List String :=
  match Request.ofArguments surroundings.canonPath arguments with
  | .ok request =>
    let ritual :=
      match request.action with
      | .compile path _ _ | .tokens path => [path]
      | .canon | .usage => []
    let canon :=
      match canonLocation surroundings request.canon with
      | .file path => [path]
      | .shipped => []
    ritual ++ canon
  | .error _ => []

end Command
end Ritual
