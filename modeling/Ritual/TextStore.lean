import Ritual.Path
import Ritual.Reader

namespace Ritual

/-!
# Texts in memory

A store holds texts under paths, and the last text put under a path is the one
that is read.  Reading takes the normal form of a path.  A store that is made
from a list of files keeps their paths as they are, so a file whose path is not
in normal form cannot be read from it.
-/

/-- Texts under paths, the last one first. -/
structure TextStore where
  entries : List (Path × String)
deriving DecidableEq, Repr

namespace TextStore

/-- The store without texts. -/
def empty : TextStore := ⟨[]⟩

/-- The store of some files, under their paths as they are. -/
def ofFiles (files : List (String × String)) : TextStore :=
  ⟨files.reverse.map fun file => (Path.ofString file.1, file.2)⟩

/-- Put a text under the normal form of a path. -/
def insert (store : TextStore) (path text : String) : TextStore :=
  ⟨((Path.ofString path).normalized, text) :: store.entries⟩

/-- The text under the normal form of a path, if there is one. -/
def get? (store : TextStore) (path : String) : Option String :=
  store.entries.lookup (Path.ofString path).normalized

@[simp] theorem get?_empty (path : String) : empty.get? path = none := rfl

/-- A text is read at every path with the same normal form, and nothing changes
at the others. -/
theorem get?_insert (store : TextStore) (path text asked : String) :
    (store.insert path text).get? asked =
      if (Path.ofString asked).normalized = (Path.ofString path).normalized then some text
      else store.get? asked := by
  by_cases same : (Path.ofString asked).normalized = (Path.ofString path).normalized
  · simp [get?, insert, same]
  · simp [get?, insert, same, List.lookup_cons, beq_eq_false_iff_ne.mpr same]

/-- The failure of reading a path under which there is no text. -/
def absence (path : String) : ReadFailure :=
  ⟨.notFound, "file not found in memory: " ++ (Path.ofString path).normalized.text⟩

/-- The reader of a store. -/
def reader (store : TextStore) : Reader := fun path =>
  match store.get? path with
  | some text => .ok text
  | none => .error (absence path)

end TextStore
end Ritual
