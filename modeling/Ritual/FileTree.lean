import Ritual.Path
import Ritual.Reader
import Ritual.Source.Bytes

namespace Ritual

/-!
# Trees of files

A tree of files and directories, as a program meets it.  A path is followed part
by part, and every part but the last must lead to a directory, so a parent
behind a missing directory leads nowhere.  This is stricter than normal forms of
paths, which are found without a tree.
-/

/-- What is at a place of a tree. -/
inductive FileTree.Entry where
  | file (bytes : List UInt8)
  | directory
deriving DecidableEq, Repr

/-- The files and directories of a tree, each under the names that lead to it
from the root.  The directories around an entry need not be listed. -/
structure FileTree where
  entries : List (List String × FileTree.Entry)
deriving DecidableEq, Repr

namespace FileTree

/-! ## Failures -/

/-- Nothing is at the path. -/
def missing : ReadFailure :=
  ⟨.notFound, "No such file or directory (os error 2)"⟩

/-- The path leads through something that is no directory. -/
def notADirectory : ReadFailure :=
  ⟨.other, "Not a directory (os error 20)"⟩

/-- The path leads to a directory. -/
def isADirectory : ReadFailure :=
  ⟨.other, "Is a directory (os error 21)"⟩

/-- The path or one of its parts is longer than any path or part may be. -/
def nameTooLong : ReadFailure :=
  ⟨.other, "File name too long (os error 36)"⟩

/-- A file's bytes are no text. -/
def notText : ReadFailure :=
  ⟨.invalidData, "stream did not contain valid UTF-8"⟩

/-! ## Following paths -/

/-- The number of bytes that a part of a path may have. -/
def partLimit : Nat := 255

/-- The number of bytes that a path may have. -/
def pathLimit : Nat := 4095

/-- What is under the given names. -/
def entry? (tree : FileTree) (names : List String) : Option Entry :=
  match tree.entries.lookup names with
  | some entry => some entry
  | none =>
    if names.isEmpty || tree.entries.any fun entry => names.isPrefixOf entry.1 then
      some .directory
    else none

/-- Follow the parts of a path from a place, given by its names from the
innermost on. -/
def follow (tree : FileTree) : List String → List (List Char) → Except ReadFailure (List String)
  | place, [] => .ok place
  | place, part :: rest =>
    match tree.entry? place.reverse with
    | some .directory =>
      if part = [] ∨ part = ['.'] then follow tree place rest
      else if part = ['.', '.'] then follow tree place.tail rest
      else if partLimit < Source.byteLength part then .error nameTooLong
      else
        let further := String.ofList part :: place
        if (tree.entry? further.reverse).isSome then follow tree further rest
        else .error missing
    | some (.file _) => .error notADirectory
    | none => .error missing

/-- The names of the place to which a path leads from a working directory. -/
def locate (tree : FileTree) (workingDirectory : List String) (path : String) :
    Except ReadFailure (List String) :=
  if pathLimit < Source.byteLength path.toList then .error nameTooLong
  else
    match path.toList with
    | [] => .error missing
    | '/' :: rest => (tree.follow [] (Path.parts rest)).map List.reverse
    | chars => (tree.follow workingDirectory.reverse (Path.parts chars)).map List.reverse

/-- The text of a file's bytes. -/
def decode (bytes : List UInt8) : Except ReadFailure String :=
  match String.fromUTF8? (ByteArray.mk bytes.toArray) with
  | some text => .ok text
  | none => .error notText

/-- The reader of a tree from a working directory. -/
def reader (tree : FileTree) (workingDirectory : List String) : Reader := fun path => do
  let names ← tree.locate workingDirectory path
  match tree.entry? names with
  | some (.file bytes) => decode bytes
  | some .directory => .error isADirectory
  | none => .error missing

/-- Whether a path leads to a file. -/
def isFile (tree : FileTree) (workingDirectory : List String) (path : String) : Bool :=
  match tree.locate workingDirectory path with
  | .ok names => (tree.entry? names).any fun entry => entry != .directory
  | .error _ => false

end FileTree
end Ritual
