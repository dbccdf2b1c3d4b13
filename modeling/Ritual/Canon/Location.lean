import Ritual.Canon.Document
import Ritual.Canon.Shipped
import Ritual.Path
import Ritual.Reader

namespace Ritual

/-!
# Where the canon is

A path that is given comes first, then one that the environment gives, then a
file that lies beside the program, and the canon at hand comes last.  A given
path is taken as it is: if there is no file at it, there are no rules, and no
other place is searched.
-/

/-- Where the rules are read from. -/
inductive CanonLocation where
  | file (path : String)
  | shipped
deriving DecidableEq, Repr

namespace CanonLocation

/-- The text that shows the place. -/
def text : CanonLocation → String
  | file path => path
  | shipped => "<built-in canon>"

/-- The number of directories around the program that are searched. -/
def searchedDirectories : Nat := 4

/-- The paths at which a canon may lie beside a program, in the order of the
search. -/
def candidates (program : String) : List String :=
  ((Path.ofString program).ancestors.take searchedDirectories).map fun directory =>
    Path.text (directory ++ [.name "lexicon", .name "canon.lock.yaml"])

/-- Choose the place, given the path of the command line, that of the
environment, and a file beside the program.  An empty path of the environment
counts as none. -/
def choose (given environment beside : Option String) : CanonLocation :=
  match given, environment.filter (!·.isEmpty), beside with
  | some path, _, _ => file path
  | none, some path, _ => file path
  | none, none, some path => file path
  | none, none, none => shipped

/-- The rules of the canon document that a text holds, which was found at a place.  A text
that holds none is an error that names the place. -/
def rulesOf (place text : String) : Except RitualError (Option CanonRules) :=
  match CanonRules.ofYaml text with
  | .ok rules => .ok (some rules)
  | .error refusal => .error (.malformedCanon place refusal.message)

/-- The rules of the canon at a path.  A missing file gives no rules; one that
cannot be read or holds no canon document is an error that names it. -/
def loadFile (reader : Reader) (path : String) : Except RitualError (Option CanonRules) :=
  match reader path with
  | .ok text => rulesOf path text
  | .error failure =>
    if failure.kind = .notFound then .ok none else .error (.unreadable path failure)

/-- The rules of the canon at a place.  Only a file can be missing. -/
def load (reader : Reader) : CanonLocation → Except RitualError (Option CanonRules)
  | file path => loadFile reader path
  | shipped => rulesOf shipped.text CanonDocument.shippedText

end CanonLocation
end Ritual
