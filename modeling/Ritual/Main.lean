import Ritual.Command.Run
import Ritual.FileTree

/-!
# The program

The program reads the clock and the files that its arguments lead to, runs the
command line over them, and writes what the run leaves behind.
-/

namespace Ritual
namespace Program

/-- The failure that an error of the file system amounts to. -/
def failureOf (error : IO.Error) : ReadFailure :=
  match error with
  | .noFileOrDirectory _ _ _ => FileTree.missing
  | .permissionDenied _ _ _ => ⟨.permissionDenied, "Permission denied (os error 13)"⟩
  | .inappropriateType _ 20 _ => FileTree.notADirectory
  | .inappropriateType _ 21 _ => FileTree.isADirectory
  | other => ⟨.other, toString other⟩

/-- Read the text of a file. -/
def readText (path : String) : IO (Except ReadFailure String) := do
  try
    let bytes ← IO.FS.readBinFile path
    return FileTree.decode bytes.toList
  catch error => return .error (failureOf error)

/-- The reading of the clock, which the file system takes when it makes a file.  Where it
makes none the beginning of 1970 stands for it. -/
def now : IO Log.Moment := do
  try
    IO.FS.withTempFile fun _ path => do
      let made := (← path.metadata).modified
      return ⟨made.sec, Fin.ofNat _ made.nsec.toNat⟩
  catch _ => return ⟨0, 0⟩

/-- What is written when the command line cannot be followed or asks for help.  The words
are those of this program alone. -/
def parserText (_ : List String) : String :=
  "CodeCraft ritual compiler\n\n" ++ Command.usage

/-- Read some files and answer from them. -/
def readerOf (paths : List String) : IO Reader := do
  let texts ← paths.mapM fun path => do return (path, ← readText path)
  return fun path => (texts.lookup path).getD (.error FileTree.missing)

end Program
end Ritual

open Ritual in
/-- Run the command line.  All log lines bear the moment at which the run began. -/
def main (arguments : List String) : IO UInt32 := do
  let started ← Program.now
  let program := (← IO.appPath).toString
  let beside ← Program.readerOf (CanonLocation.candidates program)
  let surroundings : Command.Surroundings :=
    { read := beside
      isFile := fun path =>
        match beside path with
        | .ok _ => true
        | .error failure => failure.kind == .invalidData || failure.kind == .permissionDenied
      program := program
      canonPath := ← IO.getEnv "CODECRAFT_CANON"
      logFilter := ← IO.getEnv "RUST_LOG"
      clock := fun _ => started
      parserText := Program.parserText }
  let read ← Program.readerOf (Command.pathsRead surroundings arguments)
  let outcome := Command.run { surroundings with read := read } arguments
  IO.print outcome.output
  IO.eprint outcome.errors
  return outcome.code.toUInt32
