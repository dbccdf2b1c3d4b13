import Ritual.Compilation
import Ritual.Log

namespace Ritual
namespace Log

/-!
# The events of a compilation

The events follow from the same inputs as the result, in the order in which the
work is done.  They end where the first error arises.
-/

/-- The parts of the program that tell events. -/
inductive Part where
  | canon
  | analysis
  | pipeline
  | command

/-- The name of a part, by which a filter may choose. -/
def Part.name : Part → String
  | canon => "codecraft_core::canon"
  | analysis => "codecraft_core::analyze"
  | pipeline => "codecraft_core::pipeline"
  | command => "codecraft::commands::compile"

/-- A number as the value of a field. -/
def countField (name : String) (value : Nat) : String × String :=
  (name, toString value)

/-- A school of a canon was read. -/
def schoolRead (entry : SchoolEntry) : Event :=
  ⟨.debug, Part.canon.name, "canon school",
    [("school", entry.title), countField "operations" entry.operations.length]⟩

/-- The rules at a path were read. -/
def rulesLoaded (path : String) (rules : CanonRules) : Event :=
  ⟨.info, Part.canon.name, "loaded canon rules",
    [("path", path), countField "schools" rules.schools.size,
      countField "operations" rules.operations.size]⟩

/-- The events of loading a canon. -/
def ofLoading (reader : Reader) : CanonLocation → List Event
  | .shipped => (CanonDocument.leadingSchools CanonDocument.shippedText).map schoolRead
  | .file path =>
    match reader path with
    | .ok text =>
      let schools := (CanonDocument.leadingSchools text).map schoolRead
      match CanonRules.ofYaml text with
      | .ok rules => schools ++ [rulesLoaded path rules]
      | .error _ => schools
    | .error _ => []

/-- There is no canon at the place. -/
def canonMissing (location : CanonLocation) : Event :=
  ⟨.warn, Part.analysis.name, "canon rules not found; semantic validation disabled",
    [("path", location.text)]⟩

/-- A tag was deferred. -/
def tagDeferred (deferred : DeferredTag) : Event :=
  ⟨.warn, Part.pipeline.name,
    deferred.language ++ " blocks are not yet supported; skipping",
    [("tag", deferred.tag), countField "line" deferred.location.line.toNat,
      countField "column" deferred.location.column.toNat]⟩

/-- The events of checking a tree. -/
def ofAnalysis (canon : Option CanonRules) (tree : Tree) (tokens : List Token) : List Event :=
  match canon with
  | none => [⟨.debug, Part.analysis.name, "no canon rules loaded; skipping semantic checks", []⟩]
  | some rules =>
    match Analysis.violations rules tree.blocks tokens with
    | [] => []
    | found =>
      [⟨.debug, Part.analysis.name, "constitutional violations",
        [countField "count" found.length]⟩]

/-- The events of compiling the text of a ritual. -/
def ofSource (canon : Option CanonRules) (mode : Line.Reconstruction) (source : String) :
    List Event :=
  let tokens := Token.tokenize source
  let tree := Tree.parse mode source tokens
  [⟨.debug, Part.pipeline.name, "lexed ritual", [countField "tokens" tokens.length]⟩,
    ⟨.debug, Part.pipeline.name, "parsed ritual",
      [countField "blocks" tree.blocks.length, countField "deferred" tree.deferred.length]⟩] ++
    tree.deferred.map tagDeferred ++ ofAnalysis canon tree tokens

/-- The events of compiling the ritual at a path. -/
def ofCompilation (reader : Reader) (location : CanonLocation) (mode : Line.Reconstruction)
    (path : String) : List Event :=
  match reader.ritual path with
  | .error _ => []
  | .ok source =>
    ofLoading reader location ++
      match location.load reader with
      | .error _ => []
      | .ok none => canonMissing location :: ofSource none mode source
      | .ok (some rules) => ofSource (some rules) mode source

/-- A ritual was compiled. -/
def ritualCompiled (schema : Schema) : Event :=
  ⟨.info, Part.command.name, "ritual compiled", [countField "blocks" schema.blocks.length]⟩

end Log
end Ritual
