import Ritual.Proofs.Store.LastWrite

namespace Ritual
namespace TextStore

/-!
# Stores of files

A store that is made from a list of files keeps the paths as they are, and reading asks
for normal forms.  So a file can be read only if its path is in normal form, and the store
reads as if only these files had been put into an empty one.  It reads as if all of them
had been put there exactly if no path leads back or stays where it is.
-/

open Ritual.Path (SamePlace)

/-- Whether a path is in normal form. -/
def IsNormal (path : String) : Prop :=
  (Path.ofString path).normalized = Path.ofString path

instance (path : String) : Decidable (IsNormal path) :=
  inferInstanceAs (Decidable (_ = _))

/-- A path is a normal form that is asked for if it is in normal form and leads there. -/
theorem ofString_eq_normalized_iff {path asked : String} :
    (Path.ofString asked).normalized = Path.ofString path ↔
      IsNormal path ∧ SamePlace asked path := by
  constructor
  · intro same
    have normal : IsNormal path := by
      rw [IsNormal, ← same, (Path.settled_normalized asked).normalized]
    exact ⟨normal, same.trans normal.symm⟩
  · rintro ⟨normal, here⟩
    exact here.trans normal

/-- A store of files holds those whose paths are in normal form. -/
theorem get?_ofFiles (files : List (String × String)) (asked : String) :
    (ofFiles files).get? asked =
      (ofWrites (files.filter fun file => IsNormal file.1)).get? asked := by
  rw [get?_ofWrites, lastWrite?, ← List.filter_reverse, List.find?_filter, get?, ofFiles]
  generalize files.reverse = reversed
  induction reversed with
  | nil => rfl
  | cons file rest inductionHypothesis =>
    rw [List.map_cons, List.lookup_cons, List.find?_cons, inductionHypothesis]
    by_cases found : (Path.ofString asked).normalized = Path.ofString file.1
    · have both := ofString_eq_normalized_iff.mp found
      simp [found, both.1, both.2]
    · have neither := mt ofString_eq_normalized_iff.mpr found
      simp only [beq_eq_false_iff_ne.mpr found, decide_eq_true_eq, decide_eq_false neither]

theorem reader_ofFiles (files : List (String × String)) (asked : String) :
    (ofFiles files).reader asked =
      (ofWrites (files.filter fun file => IsNormal file.1)).reader asked := by
  rw [reader, reader, get?_ofFiles]

/-! ## Files at different places -/

/-- Whether no two paths have one normal form. -/
def Apart (files : List (String × String)) : Prop :=
  files.Pairwise fun first second => ¬ SamePlace first.1 second.1

/-- The last of some texts at different places is the only one. -/
theorem lastWrite?_of_apart {files : List (String × String)} (apart : Apart files)
    {asked : String} {file : String × String} :
    lastWrite? files asked = some file ↔ file ∈ files ∧ SamePlace asked file.1 := by
  rw [lastWrite?_eq_some_iff]
  constructor
  · rintro ⟨before, after, rfl, here, _⟩
    exact ⟨by simp, here⟩
  · rintro ⟨listed, here⟩
    rcases List.append_of_mem listed with ⟨before, after, rfl⟩
    refine ⟨before, after, rfl, here, ?_⟩
    intro later behind again
    exact List.rel_of_pairwise_cons (List.pairwise_append.mp apart).2.1 behind
      (here.symm.trans again)

/-- Files at different places can be put into an empty store in any order. -/
theorem get?_ofWrites_of_apart {files written : List (String × String)} (apart : Apart files)
    (same : written.Perm files) {asked text : String} :
    (ofWrites written).get? asked = some text ↔
      ∃ path, (path, text) ∈ files ∧ SamePlace asked path := by
  have writtenApart : Apart written :=
    same.symm.pairwise apart fun apart again => apart again.symm
  rw [get?_ofWrites, Option.map_eq_some_iff]
  simp only [lastWrite?_of_apart writtenApart, same.mem_iff]
  constructor
  · rintro ⟨⟨path, _⟩, found, rfl⟩
    exact ⟨path, found⟩
  · rintro ⟨path, found⟩
    exact ⟨(path, text), found, rfl⟩

/-- One of the files is read at the place of its path. -/
theorem reader_ofWrites_of_apart {files written : List (String × String)} (apart : Apart files)
    (same : written.Perm files) {file : String × String} (listed : file ∈ files) {asked : String}
    (here : SamePlace asked file.1) : (ofWrites written).reader asked = .ok file.2 :=
  reader_eq_ok_iff.mpr ((get?_ofWrites_of_apart apart same).mpr ⟨file.1, listed, here⟩)

/-- A file is lost in a store of files if its path is not in normal form, and no other one
is read in its place. -/
theorem reader_ofFiles_of_apart {files : List (String × String)} (apart : Apart files)
    {file : String × String} (listed : file ∈ files) {asked : String}
    (here : SamePlace asked file.1) :
    (ofFiles files).reader asked =
      if IsNormal file.1 then .ok file.2 else .error (absence asked) := by
  have keptApart : Apart (files.filter fun file => IsNormal file.1) :=
    apart.sublist List.filter_sublist
  rw [reader_ofFiles]
  by_cases normal : IsNormal file.1
  · rw [if_pos normal]
    exact reader_ofWrites_of_apart keptApart (.refl _)
      (List.mem_filter.mpr ⟨listed, decide_eq_true normal⟩) here
  · rw [if_neg normal, reader_eq_error_iff, get?_ofWrites, Option.map_eq_none_iff,
      lastWrite?_eq_none_iff]
    refine ⟨?_, rfl⟩
    intro other kept again
    rcases List.mem_filter.mp kept with ⟨otherListed, otherNormal⟩
    have last := (lastWrite?_of_apart apart).mpr ⟨listed, here⟩
    rw [(lastWrite?_of_apart apart).mpr ⟨otherListed, again⟩] at last
    cases last
    exact normal (of_decide_eq_true otherNormal)

/-- Where no file is, neither store has a text. -/
theorem readers_of_absent {files written : List (String × String)} (same : written.Perm files)
    {asked : String} (absent : ∀ file ∈ files, ¬ SamePlace asked file.1) :
    (ofFiles files).reader asked = (ofWrites written).reader asked := by
  have fails (writes : List (String × String)) (among : ∀ write ∈ writes, write ∈ files) :
      (ofWrites writes).reader asked = .error (absence asked) := by
    rw [reader_eq_error_iff, get?_ofWrites, Option.map_eq_none_iff, lastWrite?_eq_none_iff]
    exact ⟨fun write listed => absent write (among write listed), rfl⟩
  rw [reader_ofFiles, fails written fun write => same.mem_iff.mp,
    fails _ fun write => List.mem_of_mem_filter]

/-- The two ways to make a store agree at a path exactly if no file there has a path that is
not in normal form. -/
theorem reader_ofFiles_eq_iff {files written : List (String × String)} (apart : Apart files)
    (same : written.Perm files) (asked : String) :
    (ofFiles files).reader asked = (ofWrites written).reader asked ↔
      ∀ file ∈ files, SamePlace asked file.1 → IsNormal file.1 := by
  constructor
  · intro agree file listed here
    rw [reader_ofFiles_of_apart apart listed here,
      reader_ofWrites_of_apart apart same listed here] at agree
    by_contra other
    rw [if_neg other] at agree
    cases agree
  · intro normal
    by_cases absent : ∀ file ∈ files, ¬ SamePlace asked file.1
    · exact readers_of_absent same absent
    · push Not at absent
      rcases absent with ⟨file, listed, here⟩
      rw [reader_ofFiles_of_apart apart listed here,
        reader_ofWrites_of_apart apart same listed here, if_pos (normal file listed here)]

/-! ## Paths in a store -/

/-- Whether all paths of a store are in normal form, as those are that reading asks for. -/
def KeepsNormal (store : TextStore) : Prop :=
  ∀ entry ∈ store.entries, entry.1.normalized = entry.1

theorem KeepsNormal.insert {store : TextStore} (keeps : store.KeepsNormal)
    (path text : String) : (store.insert path text).KeepsNormal :=
  List.forall_mem_cons.mpr ⟨(Path.settled_normalized path).normalized, keeps⟩

theorem KeepsNormal.insertAll {store : TextStore} (keeps : store.KeepsNormal)
    (writes : List (String × String)) : (store.insertAll writes).KeepsNormal := by
  induction writes generalizing store with
  | nil => exact keeps
  | cons write rest inductionHypothesis =>
    exact inductionHypothesis (keeps.insert write.1 write.2)

theorem keepsNormal_ofWrites (writes : List (String × String)) :
    (ofWrites writes).KeepsNormal :=
  KeepsNormal.insertAll (fun _ impossible => absurd impossible List.not_mem_nil) writes

theorem keepsNormal_ofFiles_iff {files : List (String × String)} :
    (ofFiles files).KeepsNormal ↔ ∀ file ∈ files, IsNormal file.1 := by
  simp only [KeepsNormal, ofFiles, List.mem_map, List.mem_reverse, forall_exists_index, and_imp,
    forall_apply_eq_imp_iff₂]
  rfl

/-- A store of files at different places agrees with the store into which they are put one
by one, in any order, exactly if all their paths are in normal form; and then only, all
paths in it are in normal form, as they always are in the other one.  They agree at a path
exactly if no file there has another path.  Such a file cannot be read at its own path,
where the other store has it. -/
theorem ofFiles_agrees_iff {files written : List (String × String)}
    (apart : files.Pairwise fun first second => ¬ SamePlace first.1 second.1)
    (same : written.Perm files) :
    ((∀ asked, (ofFiles files).reader asked = (ofWrites written).reader asked) ↔
        ∀ file ∈ files, IsNormal file.1) ∧
      (∀ asked, (ofFiles files).reader asked = (ofWrites written).reader asked ↔
        ∀ file ∈ files, SamePlace asked file.1 → IsNormal file.1) ∧
      (∀ file ∈ files, (ofWrites written).reader file.1 = .ok file.2 ∧
        (ofFiles files).reader file.1 =
          if IsNormal file.1 then .ok file.2 else .error (absence file.1)) ∧
      (ofWrites written).KeepsNormal ∧
      ((ofFiles files).KeepsNormal ↔ ∀ file ∈ files, IsNormal file.1) := by
  refine ⟨?_, reader_ofFiles_eq_iff apart same, ?_, keepsNormal_ofWrites written,
    keepsNormal_ofFiles_iff⟩
  · simp only [reader_ofFiles_eq_iff apart same]
    exact ⟨fun normal file listed => normal file.1 file listed rfl,
      fun normal asked file listed here => normal file listed⟩
  · intro file listed
    exact ⟨reader_ofWrites_of_apart apart same listed rfl,
      reader_ofFiles_of_apart apart listed rfl⟩

/-- One file whose path is in normal form, though it has a slash too many, and one whose
path leads back. -/
theorem ofFiles_agrees_iff_back :
    [("a//b", "kept"), ("c/../d", "lost")].Pairwise
        (fun first second : String × String => ¬ SamePlace first.1 second.1) ∧
      (ofFiles [("a//b", "kept"), ("c/../d", "lost")]).reader "./a/b" =
        (ofWrites [("c/../d", "lost"), ("a//b", "kept")]).reader "./a/b" ∧
      (ofFiles [("a//b", "kept"), ("c/../d", "lost")]).reader "d" ≠
        (ofWrites [("c/../d", "lost"), ("a//b", "kept")]).reader "d" ∧
      (ofFiles [("a//b", "kept"), ("c/../d", "lost")]).reader "c/../d" =
        .error ⟨.notFound, "file not found in memory: d"⟩ := by
  have apart : [("a//b", "kept"), ("c/../d", "lost")].Pairwise
      (fun first second : String × String => ¬ SamePlace first.1 second.1) := by decide
  have agrees := ofFiles_agrees_iff apart (List.Perm.swap _ _ [])
  refine ⟨apart, (agrees.2.1 _).mpr (by decide), ?_, ?_⟩
  · rw [Ne, agrees.2.1]
    decide
  · exact (agrees.2.2.1 ("c/../d", "lost") (by decide)).2

/-- A file is not found at its own path. -/
theorem ofFiles_disagrees :
    ¬ ∀ files : List (String × String),
      files.Pairwise (fun first second => ¬ SamePlace first.1 second.1) →
      ∀ asked, (ofFiles files).reader asked = (ofWrites files).reader asked := by
  intro agree
  have same := agree [("./a", "x")] (List.pairwise_singleton _ _) "./a"
  revert same
  decide

end TextStore
end Ritual
