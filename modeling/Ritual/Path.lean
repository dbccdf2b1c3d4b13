namespace Ritual

/-!
# Paths

A path is read as its components, and two paths are equal if these are.  So
repeated and trailing slashes do not count, and neither does a dot behind the
first component.  Normal forms are found without looking at any file.
-/

/-- A component of a path. -/
inductive PathComponent where
  /-- The slash at the beginning of an absolute path. -/
  | root
  /-- The dot at the beginning of a relative path. -/
  | current
  | parent
  | name (text : String)
deriving DecidableEq, Repr

/-- A path by its components. -/
abbrev Path := List PathComponent

namespace Path

/-- The parts of a text between slashes. -/
def parts : List Char → List (List Char)
  | [] => [[]]
  | char :: rest =>
    match parts rest with
    | [] => [[char]]
    | part :: others => if char = '/' then [] :: part :: others else (char :: part) :: others

/-- The component that a part stands for, behind the first one. -/
def component? (part : List Char) : Option PathComponent :=
  if part = [] ∨ part = ['.'] then none
  else if part = ['.', '.'] then some .parent
  else some (.name (String.ofList part))

/-- The path that a text spells. -/
def ofString (text : String) : Path :=
  match text.toList with
  | '/' :: rest => .root :: (parts rest).filterMap component?
  | chars =>
    match parts chars with
    | ['.'] :: rest => .current :: rest.filterMap component?
    | all => all.filterMap component?

/-- Add a component to a path in normal form, which is given from its end.  A
parent takes away whatever is there, and the root as well. -/
def resolve (reversed : List PathComponent) : PathComponent → List PathComponent
  | .current => reversed
  | .parent => reversed.tail
  | other => other :: reversed

/-- The normal form of a path: without dots, and with every parent resolved
against what stands before it. -/
def normalized (path : Path) : Path :=
  (path.foldl resolve []).reverse

/-- The text of a component. -/
def componentText : PathComponent → String
  | .root => "/"
  | .current => "."
  | .parent => ".."
  | .name text => text

/-- The text of a path. -/
def text : Path → String
  | .root :: rest => "/" ++ "/".intercalate (rest.map componentText)
  | path => "/".intercalate (path.map componentText)

/-- The directories that hold an absolute path, the innermost first. -/
def ancestors (path : Path) : List Path :=
  ((List.range path.length).reverse.map fun count => path.take count).filter (!·.isEmpty)

end Path
end Ritual
