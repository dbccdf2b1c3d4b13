import Ritual.Line

namespace Ritual
namespace Command

/-!
# The arguments of the command line

A path alone stands for the compile command, which is put in front before the
arguments are read.  Reading then goes from left to right and stops at the first
argument that asks for help or cannot be followed, except that the value behind
a flag is judged with the argument behind it.  Three flags may stand before
and after the command, once at each place, and the later one counts.
-/

/-! ## The default command -/

/-- The commands. -/
inductive Name where
  | compile
  | tokens
  | canon
deriving DecidableEq, Repr

namespace Name

/-- The command with a given name. -/
def ofString? : String → Option Name
  | "compile" => some compile
  | "tokens" => some tokens
  | "canon" => some canon
  | _ => none

end Name

/-- The word that asks for help where a command may stand. -/
def helpWord : String := "help"

/-- The flags that take the next argument as their value. -/
def valueFlags : List String :=
  ["--output", "--canon", "--reconstruct"]

/-- Whether the argument is a flag.  A single hyphen is none. -/
def isFlag (argument : String) : Bool :=
  match argument.toList with
  | '-' :: _ :: _ => true
  | _ => false

/-- Whether the arguments name a ritual where a command could stand. -/
def namesRitual : List String → Bool
  | [] => false
  | argument :: rest =>
    if argument = "--" then !rest.isEmpty
    else if valueFlags.contains argument then
      match rest with
      | _ :: further => namesRitual further
      | [] => false
    else if isFlag argument then namesRitual rest
    else (Name.ofString? argument).isNone && argument != helpWord

/-- The arguments with the compile command in front if they name a ritual
without one. -/
def withDefault (arguments : List String) : List String :=
  if namesRitual arguments then "compile" :: arguments else arguments

/-- A whole argument vector, which begins with the name of the program, with the
compile command behind that name if the arguments name a ritual without one. -/
def vectorWithDefault : List String → List String
  | [] => []
  | program :: arguments => program :: withDefault arguments

/-! ## Flags -/

/-- How results and errors are written. -/
inductive Format where
  | text
  | json
deriving DecidableEq, Repr

/-- The format with a given name. -/
def Format.ofString? : String → Option Format
  | "text" => some text
  | "json" => some json
  | _ => none

/-- The flags. -/
inductive Flag where
  | output
  | quiet
  | canon
  | debugTokens
  | reconstruct
  | help
  | version
deriving DecidableEq, Repr

namespace Flag

/-- The flag with a given long name. -/
def ofLong? : String → Option Flag
  | "output" => some output
  | "quiet" => some quiet
  | "canon" => some canon
  | "debug-tokens" => some debugTokens
  | "reconstruct" => some reconstruct
  | "help" => some help
  | "version" => some version
  | _ => none

/-- Whether the flag may stand behind a command, or before one. -/
def mayStand (place : Option Name) : Flag → Bool
  | output | quiet | canon | help => true
  | debugTokens | reconstruct => place = some .compile
  | version => place = none

/-- Whether the flag takes a value. -/
def takesValue : Flag → Bool
  | output | canon | reconstruct => true
  | quiet | debugTokens | help | version => false

end Flag

/-- Why reading stops before its end. -/
inductive Stop where
  | help
  | version
  | refused
deriving DecidableEq, Repr

/-- What is given at one place, before or behind a command. -/
structure Options where
  output : Option Format
  quiet : Bool
  canon : Option String
  debugTokens : Bool
  reconstruction : Option Line.Reconstruction
  ritual : Option String
deriving DecidableEq, Repr

namespace Options

/-- Nothing given. -/
def none : Options := ⟨.none, false, .none, false, .none, .none⟩

/-- Give a flag its value, which it must not have yet. -/
def give (options : Options) (flag : Flag) (value : String) : Except Stop Options :=
  match flag with
  | .output =>
    match options.output, Format.ofString? value with
    | .none, some format => .ok { options with output := some format }
    | _, _ => .error .refused
  | .canon =>
    if options.canon.isSome || value.isEmpty then .error .refused
    else .ok { options with canon := some value }
  | .reconstruct =>
    match options.reconstruction, Line.Reconstruction.ofName? value with
    | .none, some mode => .ok { options with reconstruction := some mode }
    | _, _ => .error .refused
  | _ => .error .refused

/-- Set a flag without a value, which must not be set yet. -/
def set (options : Options) : Flag → Except Stop Options
  | .quiet => if options.quiet then .error .refused else .ok { options with quiet := true }
  | .debugTokens =>
    if options.debugTokens then .error .refused else .ok { options with debugTokens := true }
  | .help => .error .help
  | .version => .error .version
  | _ => .error .refused

/-- Give the path of the ritual, which two commands take once. -/
def giveRitual (options : Options) (place : Option Name) (path : String) : Except Stop Options :=
  match place with
  | some .compile | some .tokens =>
    if options.ritual.isSome || path.isEmpty then .error .refused
    else .ok { options with ritual := some path }
  | _ => .error .refused

end Options

/-! ## Reading -/

/-- The name and the value of a long flag with the value behind an equals
sign. -/
def long? (argument : String) : Option (String × Option String) :=
  match argument.toList with
  | '-' :: '-' :: rest =>
    let name := String.ofList (rest.takeWhile (· != '='))
    match rest.dropWhile (· != '=') with
    | _ :: value => some (name, some (String.ofList value))
    | [] => some (name, none)
  | _ => none

/-- Read short flags.  Each of them stops the reading. -/
def readShort (place : Option Name) (argument : String) : Stop :=
  match argument.toList with
  | _ :: 'h' :: _ => .help
  | _ :: 'V' :: _ => if place = none then .version else .refused
  | _ => .refused

/-- Read the words behind the word for help, which name commands. -/
def readHelp : List String → Stop
  | [] => .help
  | [topic] => if (Name.ofString? topic).isSome || topic == helpWord then .help else .refused
  | _ => .refused

/-- Read the arguments at one place, given what was read there so far.  Before a
command they end with it, and what follows it is left over.  A value behind its
flag is judged when the next argument is read here, so a command right behind it
comes first. -/
def readPlace (place : Option Name) :
    Except Stop Options → List String →
      Except Stop (Except Stop Options × Option (Name × List String))
  | read, [] => .ok (read, none)
  | read, argument :: rest =>
    if argument = "--" then
      let giveNext (given : Options) (path : String) := given.giveRitual place path
      .ok (read >>= fun options => rest.foldlM giveNext options, none)
    else
      match long? argument with
      | some (name, attached) => do
        let options ← read
        match (Flag.ofLong? name).filter (Flag.mayStand place), attached with
        | none, _ => .error .refused
        | some flag, some value =>
          if flag.takesValue then do
            readPlace place (.ok (← options.give flag value)) rest
          else .error .refused
        | some flag, none =>
          if flag.takesValue then
            match rest with
            | value :: further =>
              if isFlag value then .error .refused
              else readPlace place (options.give flag value) further
            | [] => .error .refused
          else do readPlace place (.ok (← options.set flag)) rest
      | none =>
        if isFlag argument then do
          let _ ← read
          .error (readShort place argument)
        else
          match place with
          | none =>
            match Name.ofString? argument with
            | some command => .ok (read, some (command, rest))
            | none => .error (if argument = helpWord then readHelp rest else .refused)
          | some _ => do
            let options ← read
            readPlace place (options.giveRitual place argument) rest

/-! ## Requests -/

/-- What a run is asked to do. -/
inductive Action where
  | compile (ritual : String) (mode : Line.Reconstruction) (debugTokens : Bool)
  | tokens (ritual : String)
  | canon
  /-- Nothing, since no command is given. -/
  | usage
deriving DecidableEq, Repr

/-- A command line that was understood. -/
structure Request where
  format : Format
  quiet : Bool
  canon : Option String
  action : Action
deriving DecidableEq, Repr

/-- The action of a command with the options behind it. -/
def actionOf (options : Options) : Name → Except Stop Action
  | .compile =>
    match options.ritual with
    | some ritual =>
      .ok (.compile ritual (options.reconstruction.getD .source) options.debugTokens)
    | none => .error .refused
  | .tokens =>
    match options.ritual with
    | some ritual => .ok (.tokens ritual)
    | none => .error .refused
  | .canon => .ok .canon

/-- The path of the canon at a place: the given one, or that of the environment,
which must not be empty. -/
def canonAt (options : Options) (environment : Option String) : Except Stop (Option String) :=
  match options.canon, environment with
  | some path, _ => .ok (some path)
  | none, some path => if path.isEmpty then .error .refused else .ok none
  | none, none => .ok none

/-- Read a command line, given the path of the canon in the environment. -/
def Request.ofArguments (environment : Option String) (arguments : List String) :
    Except Stop Request := do
  let (readBefore, command) ← readPlace none (.ok Options.none) (withDefault arguments)
  match command with
  | none =>
    let before ← readBefore
    let canon ← canonAt before environment
    return ⟨before.output.getD .text, before.quiet, canon <|> environment, .usage⟩
  | some (command, rest) =>
    let (readBehind, _) ← readPlace (some command) (.ok Options.none) rest
    let behind ← readBehind
    let action ← actionOf behind command
    let before ← readBefore
    let canon := (← canonAt behind environment) <|> (← canonAt before environment)
    return ⟨(behind.output <|> before.output).getD .text, before.quiet || behind.quiet,
      canon <|> environment, action⟩

end Command
end Ritual
