import Ritual.Proofs.Path.Normal
import Ritual.TextStore

namespace Ritual
namespace TextStore

/-!
# The last text under a path

Texts are put into an empty store one after another.  One of them is read at every path
with the normal form of its own, unless a later one has that normal form as well, and no
other text is.  So a store is known by the normal forms of paths, and these are known by
their laws: they never stay where they are or lead back, they are their own normal forms,
and the way into a directory and back is no part of them.
-/

open Ritual.Path (SamePlace Plain Relative normalText join)

/-- Put texts under paths, one after another. -/
def insertAll (store : TextStore) (writes : List (String × String)) : TextStore :=
  writes.foldl (fun store write => store.insert write.1 write.2) store

/-- The store of texts that are put into an empty one. -/
def ofWrites (writes : List (String × String)) : TextStore :=
  empty.insertAll writes

/-- The last of some texts under the normal form of a path. -/
def lastWrite? (writes : List (String × String)) (asked : String) : Option (String × String) :=
  writes.reverse.find? fun write => SamePlace asked write.1

theorem lastWrite?_cons (write : String × String) (rest : List (String × String))
    (asked : String) :
    lastWrite? (write :: rest) asked =
      (lastWrite? rest asked).or (if SamePlace asked write.1 then some write else none) := by
  rw [lastWrite?, List.reverse_cons, List.find?_append, ← lastWrite?, List.find?_singleton]
  simp only [decide_eq_true_eq]

/-- A text is the last one for a path if it stands there and nothing behind it does. -/
theorem lastWrite?_eq_some_iff {writes : List (String × String)} {asked : String}
    {write : String × String} :
    lastWrite? writes asked = some write ↔
      ∃ before after, writes = before ++ write :: after ∧ SamePlace asked write.1 ∧
        ∀ later ∈ after, ¬ SamePlace asked later.1 := by
  rw [lastWrite?, List.find?_eq_some_iff_append]
  constructor
  · rintro ⟨here, after, before, reversed, free⟩
    refine ⟨before.reverse, after.reverse, ?_, of_decide_eq_true here, ?_⟩
    · rw [← List.reverse_reverse writes, reversed]
      simp
    · intro later listed
      simpa using free later (List.mem_reverse.mp listed)
  · rintro ⟨before, after, rfl, here, free⟩
    refine ⟨decide_eq_true here, after.reverse, before.reverse, by simp, ?_⟩
    intro later listed
    simpa using free later (List.mem_reverse.mp listed)

theorem lastWrite?_eq_none_iff {writes : List (String × String)} {asked : String} :
    lastWrite? writes asked = none ↔ ∀ write ∈ writes, ¬ SamePlace asked write.1 := by
  simp [lastWrite?]

theorem get?_insert_of_samePlace (store : TextStore) {path asked : String} (text : String)
    (here : SamePlace asked path) : (store.insert path text).get? asked = some text :=
  (store.get?_insert path text asked).trans (if_pos here)

theorem get?_insert_of_not_samePlace (store : TextStore) {path asked : String} (text : String)
    (elsewhere : ¬ SamePlace asked path) :
    (store.insert path text).get? asked = store.get? asked :=
  (store.get?_insert path text asked).trans (if_neg elsewhere)

/-- Texts that are put into a store hide those that it holds at their places. -/
theorem get?_insertAll (store : TextStore) (writes : List (String × String)) (asked : String) :
    (store.insertAll writes).get? asked =
      ((lastWrite? writes asked).map Prod.snd).or (store.get? asked) := by
  induction writes generalizing store with
  | nil => rfl
  | cons write rest inductionHypothesis =>
    have step : (store.insertAll (write :: rest)).get? asked =
        ((lastWrite? rest asked).map Prod.snd).or ((store.insert write.1 write.2).get? asked) :=
      inductionHypothesis (store.insert write.1 write.2)
    rw [step, lastWrite?_cons]
    cases lastWrite? rest asked with
    | some later => rfl
    | none =>
      by_cases here : SamePlace asked write.1
      · rw [if_pos here, store.get?_insert_of_samePlace write.2 here]
        rfl
      · rw [if_neg here, store.get?_insert_of_not_samePlace write.2 here]
        rfl

/-- The store of texts that are put into an empty one holds the last of them at every place. -/
theorem get?_ofWrites (writes : List (String × String)) (asked : String) :
    (ofWrites writes).get? asked = (lastWrite? writes asked).map Prod.snd := by
  rw [ofWrites, get?_insertAll, get?_empty, Option.or_none]

/-- A text at one place changes nothing that is read at another. -/
theorem reader_insert_of_not_samePlace (store : TextStore) {path asked : String} (text : String)
    (elsewhere : ¬ SamePlace asked path) :
    (store.insert path text).reader asked = store.reader asked := by
  rw [reader, reader, store.get?_insert_of_not_samePlace text elsewhere]

theorem reader_eq_ok_iff {store : TextStore} {asked text : String} :
    store.reader asked = .ok text ↔ store.get? asked = some text := by
  rw [reader]
  cases store.get? asked with
  | some held => simp
  | none => simp

theorem reader_eq_error_iff {store : TextStore} {asked : String} {failure : ReadFailure} :
    store.reader asked = .error failure ↔ store.get? asked = none ∧ failure = absence asked := by
  rw [reader]
  cases store.get? asked with
  | some held => simp
  | none => simp [eq_comm]

/-- Texts that are put into an empty store are read by normal forms.  A path is read as the
last text whose path has the same normal form, and if there is none, the failure is that
there is no such file and names the normal form.  A text at one place changes nothing at
another.  Normal forms are told apart by their texts, never stay where they are or lead
back, and are their own normal forms, and the way into a directory and back is no part of
them. -/
theorem reader_ofWrites :
    (∀ (writes : List (String × String)) (asked : String),
      (∀ text, (ofWrites writes).reader asked = .ok text ↔
        ∃ before path after, writes = before ++ (path, text) :: after ∧
          SamePlace asked path ∧ ∀ later ∈ after, ¬ SamePlace asked later.1) ∧
      (∀ failure, (ofWrites writes).reader asked = .error failure ↔
        (∀ write ∈ writes, ¬ SamePlace asked write.1) ∧
          failure = ⟨.notFound, "file not found in memory: " ++ normalText asked⟩)) ∧
    (∀ (store : TextStore) (path text asked : String), ¬ SamePlace asked path →
      (store.insert path text).reader asked = store.reader asked) ∧
    (∀ path, (∀ other, SamePlace path other ↔ normalText path = normalText other) ∧
      Path.ofString (normalText path) = (Path.ofString path).normalized ∧
      normalText (normalText path) = normalText path ∧
      .current ∉ Path.ofString (normalText path) ∧
      .parent ∉ Path.ofString (normalText path)) ∧
    (∀ path name added, Plain name → Relative added →
      normalText (join (join (join path name) "..") added) = normalText (join path added)) := by
  refine ⟨?_, ?_, ?_, ?_⟩
  · intro writes asked
    constructor
    · intro text
      rw [reader_eq_ok_iff, get?_ofWrites, Option.map_eq_some_iff]
      constructor
      · rintro ⟨⟨path, _⟩, last, rfl⟩
        rcases lastWrite?_eq_some_iff.mp last with ⟨before, after, found⟩
        exact ⟨before, path, after, found⟩
      · rintro ⟨before, path, after, found⟩
        exact ⟨(path, text), lastWrite?_eq_some_iff.mpr ⟨before, after, found⟩, rfl⟩
    · intro failure
      rw [reader_eq_error_iff, get?_ofWrites, Option.map_eq_none_iff, lastWrite?_eq_none_iff]
      rfl
  · exact fun store path text asked => store.reader_insert_of_not_samePlace text
  · intro path
    exact ⟨Path.samePlace_iff path, Path.ofString_normalText path,
      Path.normalText_normalText path, Path.not_mem_ofString_normalText path⟩
  · exact fun path name added => Path.normalText_join_detour path

theorem reader_ofWrites_detour :
    (ofWrites [("/r/a", "old"), ("/r/b/../a", "new"), ("/r/b", "other")]).reader "/r//./a/" =
        .ok "new" ∧
      (ofWrites [("/r/a", "old")]).reader "/../r/a" =
        .error ⟨.notFound, "file not found in memory: r/a"⟩ ∧
      ((ofWrites [("/r/a", "old")]).insert "r/a" "new").reader "/r/a" =
        (ofWrites [("/r/a", "old")]).reader "/r/a" ∧
      normalText (join (join (join "/r/./" "x") "..") "../a") =
        normalText (join "/r/./" "../a") := by
  refine ⟨?_, ?_, ?_, ?_⟩
  · exact ((reader_ofWrites.1 _ _).1 _).mpr
      ⟨[("/r/a", "old")], "/r/b/../a", [("/r/b", "other")], rfl, by decide, by decide⟩
  · exact ((reader_ofWrites.1 _ _).2 _).mpr ⟨by decide, by decide⟩
  · exact reader_ofWrites.2.1 _ _ _ _ (by decide)
  · exact reader_ofWrites.2.2.2 _ _ _ (by decide) (by decide)

end TextStore
end Ritual
