import Ritual.NameSet

namespace Ritual

/-!
# Maps from names to sets of names

The entries stand in the strictly ascending order of their keys.  The order is
part of the type, so a map is determined by the set under each key.
-/

/-- Add members under a key of an ascending list of entries. -/
def extendEntries (key : String) (names : NameSet) :
    List (String × NameSet) → List (String × NameSet)
  | [] => [(key, names)]
  | (head, set) :: rest =>
    if key < head then (key, names) :: (head, set) :: rest
    else if key = head then (head, set.union names) :: rest
    else (head, set) :: extendEntries key names rest

theorem keys_extendEntries (key : String) (names : NameSet) (entries : List (String × NameSet)) :
    (extendEntries key names entries).map Prod.fst = insertName key (entries.map Prod.fst) := by
  induction entries with
  | nil => rfl
  | cons entry rest inductionHypothesis =>
    obtain ⟨head, set⟩ := entry
    simp only [extendEntries, insertName, List.map_cons]
    split
    · rfl
    · split
      · rfl
      · simp [inductionHypothesis]

/-- A finite map from names to sets of names. -/
structure NameMap where
  entries : List (String × NameSet)
  ascending : (entries.map Prod.fst).Pairwise (· < ·)
deriving DecidableEq

namespace NameMap

/-- The map without entries. -/
def empty : NameMap := ⟨[], NameSet.nil_ascending⟩

/-- The set under a key, if there is one. -/
def get? (map : NameMap) (key : String) : Option NameSet :=
  map.entries.lookup key

/-- The map with more members under a key. -/
def extend (map : NameMap) (key : String) (names : NameSet) : NameMap :=
  ⟨extendEntries key names map.entries, by
    rw [keys_extendEntries]
    exact insertName_ascending map.ascending⟩

@[simp] theorem get?_empty (key : String) : empty.get? key = none := rfl

end NameMap

theorem lookup_cons_entry (other head : String) (set : NameSet) (rest : List (String × NameSet)) :
    ((head, set) :: rest).lookup other = if other = head then some set else rest.lookup other := by
  by_cases same : other = head
  · simp [same]
  · simp [List.lookup_cons, same, beq_eq_false_iff_ne.mpr same]

theorem lookup_eq_none_of_below {missing : String} {entries : List (String × NameSet)}
    (below : ∀ listed ∈ entries.map Prod.fst, missing < listed) :
    entries.lookup missing = none := by
  induction entries with
  | nil => rfl
  | cons entry rest inductionHypothesis =>
    obtain ⟨head, set⟩ := entry
    have different : missing ≠ head := by
      intro same
      exact String.lt_irrefl missing (same ▸ below head (by simp))
    rw [lookup_cons_entry, if_neg different]
    exact inductionHypothesis fun listed found => below listed (List.mem_cons_of_mem _ found)

theorem lookup_extendEntries (key other : String) (names : NameSet)
    {entries : List (String × NameSet)}
    (ascending : (entries.map Prod.fst).Pairwise (· < ·)) :
    (extendEntries key names entries).lookup other =
      if other = key then
        some (match entries.lookup key with
          | some set => set.union names
          | none => names)
      else entries.lookup other := by
  induction entries with
  | nil => simp [extendEntries, lookup_cons_entry]
  | cons entry rest inductionHypothesis =>
    obtain ⟨head, set⟩ := entry
    obtain ⟨aboveHead, later⟩ := List.pairwise_cons.mp ascending
    simp only [extendEntries]
    by_cases below : key < head
    · have keyAbsent : ((head, set) :: rest).lookup key = none := by
        apply lookup_eq_none_of_below
        intro listed found
        rcases List.mem_cons.mp found with rfl | inRest
        · exact below
        · exact String.lt_trans below (aboveHead listed inRest)
      rw [if_pos below, keyAbsent, lookup_cons_entry]
    · by_cases atHead : key = head
      · subst atHead
        rw [if_neg below, if_pos rfl]
        simp only [lookup_cons_entry]
        by_cases same : other = key <;> simp [same]
      · rw [if_neg below, if_neg atHead]
        simp only [lookup_cons_entry, inductionHypothesis later, atHead, if_false]
        by_cases same : other = head
        · subst same
          simp [Ne.symm atHead]
        · simp [same]

namespace NameMap

theorem get?_extend (map : NameMap) (key other : String) (names : NameSet) :
    (map.extend key names).get? other =
      if other = key then
        some (match map.get? key with
          | some set => set.union names
          | none => names)
      else map.get? other :=
  lookup_extendEntries key other names map.ascending

end NameMap
end Ritual
