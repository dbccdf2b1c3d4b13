import Ritual.Analysis
import Ritual.Canon.Location
import Ritual.Schema
import Ritual.Token.Stream

namespace Ritual

/-!
# Compiling a ritual

A compilation stops at the first error.  The ritual is read before the canon, so
when neither can be read the error is the ritual's.
-/

namespace Compilation

/-- Compile the text of a ritual against the rules, if there are any. -/
def compileSource (canon : Option CanonRules) (mode : Line.Reconstruction) (source : String) :
    Except RitualError Schema := do
  let tokens := Token.tokenize source
  let tree ← Analysis.analyze canon (Tree.parse mode source tokens) tokens
  return Schema.ofTree tree

/-- Compile the ritual at a path against the canon at a place. -/
def compile (reader : Reader) (location : CanonLocation) (mode : Line.Reconstruction)
    (path : String) : Except RitualError Schema := do
  let source ← reader.ritual path
  let canon ← location.load reader
  compileSource canon mode source

end Compilation
end Ritual
