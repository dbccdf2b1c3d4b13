import Ritual.Proofs.Path.Place
import Ritual.Proofs.Store.LastWrite

namespace Ritual
namespace TextStore

/-!
# Where a text can be read

A text that is put under a path is read at the paths with the same normal form.  Normal
forms are no places: a path that leads out of where it is put has the normal form of one
that stays there, and one that leads above the root has that of a relative one.  So a text
can be read at another place than its own.  It cannot if neither path ever leads above its
beginning.
-/

open Ritual.Path (SamePlace Relative placeOf Climbs KeepsRoot)

/-- Whether a text that is put under one path is read at another, whatever else is in the
store. -/
def Visible (path asked : String) : Prop :=
  ∀ (store : TextStore) (text : String), (store.insert path text).reader asked = .ok text

theorem visible_iff_samePlace {path asked : String} :
    Visible path asked ↔ SamePlace asked path := by
  constructor
  · intro visible
    by_contra elsewhere
    have read := visible empty ""
    rw [reader_insert_of_not_samePlace empty "" elsewhere] at read
    cases read
  · intro here store text
    exact reader_eq_ok_iff.mpr (store.get?_insert_of_samePlace text here)

/-- A text is read exactly at the paths to the same names which keep the root if its own
path does, and it changes nothing at any other path.  If neither path leads above its
beginning, these are the paths to the same place. -/
theorem visible_by_place (path asked : String) :
    (Visible path asked ↔ (placeOf path).names = (placeOf asked).names ∧
        (KeepsRoot path ↔ KeepsRoot asked)) ∧
      (¬ Visible path asked → ∀ (store : TextStore) (text : String),
        (store.insert path text).reader asked = store.reader asked) ∧
      (¬ Climbs path → ¬ Climbs asked → (Visible path asked ↔ placeOf path = placeOf asked)) := by
  have symmetric : Visible path asked ↔ SamePlace path asked :=
    visible_iff_samePlace.trans eq_comm
  refine ⟨symmetric.trans Path.samePlace_iff_names, ?_, ?_⟩
  · intro hidden store text
    exact store.reader_insert_of_not_samePlace text (mt visible_iff_samePlace.mpr hidden)
  · intro below askedBelow
    exact symmetric.trans (Path.samePlace_iff_placeOf below askedBelow)

/-- A detour that stays below the root, and a relative path to the same names; and paths
that lead above the root and out of a relative path. -/
theorem visible_by_place_detour :
    (¬ Climbs "/r/x/../a" ∧ ¬ Climbs "//r/./a/" ∧ Visible "/r/x/../a" "//r/./a/") ∧
      (¬ Visible "/r/a" "r/a" ∧ ∀ (store : TextStore) (text : String),
        (store.insert "/r/a" text).reader "r/a" = store.reader "r/a") ∧
      Visible "/../r/a" "x/../../r/a" := by
  refine ⟨?_, ?_, ?_⟩
  · have below : ¬ Climbs "/r/x/../a" := by decide
    have askedBelow : ¬ Climbs "//r/./a/" := by decide
    exact ⟨below, askedBelow,
      ((visible_by_place "/r/x/../a" "//r/./a/").2.2 below askedBelow).mpr (by decide)⟩
  · have hidden : ¬ Visible "/r/a" "r/a" := by
      rw [(visible_by_place "/r/a" "r/a").1]
      decide
    exact ⟨hidden, (visible_by_place "/r/a" "r/a").2.1 hidden⟩
  · exact (visible_by_place "/../r/a" "x/../../r/a").1.mpr (by decide)

/-- A text below the root can be read at a relative path. -/
theorem visible_elsewhere :
    ¬ ∀ path asked, Visible path asked →
      (Relative path ↔ Relative asked) ∧ placeOf path = placeOf asked := by
  intro onlyThere
  have same := onlyThere "/../a" "a" (visible_iff_samePlace.mpr (by decide))
  revert same
  decide

end TextStore
end Ritual
