namespace Ritual

/-!
# Sets and maps of names

A set of names is the strictly ascending list of its members, in the order of
code points.  The order is part of the type, so two sets with the same members
are equal, and a listing needs no sorting.  A map from names to sets of names is
kept in the same way by its keys.
-/

/-- Put a name into an ascending list, unless it is there. -/
def insertName (name : String) : List String → List String
  | [] => [name]
  | head :: rest =>
    if name < head then name :: head :: rest
    else if name = head then head :: rest
    else head :: insertName name rest

theorem mem_insertName {name other : String} {names : List String} :
    other ∈ insertName name names ↔ other = name ∨ other ∈ names := by
  induction names with
  | nil => simp [insertName]
  | cons head rest inductionHypothesis =>
    simp only [insertName]
    split
    · simp
    · split
      · rename_i same
        subst same
        simp
      · simp only [List.mem_cons, inductionHypothesis]
        constructor
        · rintro (here | here | later)
          · exact Or.inr (Or.inl here)
          · exact Or.inl here
          · exact Or.inr (Or.inr later)
        · rintro (here | here | later)
          · exact Or.inr (Or.inl here)
          · exact Or.inl here
          · exact Or.inr (Or.inr later)

theorem insertName_ascending {name : String} {names : List String}
    (ascending : names.Pairwise (· < ·)) : (insertName name names).Pairwise (· < ·) := by
  induction names with
  | nil => simp [insertName]
  | cons head rest inductionHypothesis =>
    obtain ⟨above, later⟩ := List.pairwise_cons.mp ascending
    simp only [insertName]
    split
    · rename_i below
      refine List.pairwise_cons.mpr ⟨?_, ascending⟩
      intro other listed
      rcases List.mem_cons.mp listed with rfl | inRest
      · exact below
      · exact String.lt_trans below (above other inRest)
    · split
      · exact ascending
      · rename_i notBelow different
        have headBelow : head < name := by grind
        refine List.pairwise_cons.mpr ⟨?_, inductionHypothesis later⟩
        intro other listed
        rcases mem_insertName.mp listed with rfl | inRest
        · exact headBelow
        · exact above other inRest

/-- A finite set of names. -/
structure NameSet where
  toList : List String
  ascending : toList.Pairwise (· < ·)
deriving DecidableEq

namespace NameSet

instance : Membership String NameSet where
  mem set name := name ∈ set.toList

instance (name : String) (set : NameSet) : Decidable (name ∈ set) :=
  inferInstanceAs (Decidable (name ∈ set.toList))

theorem mem_def {name : String} {set : NameSet} : name ∈ set ↔ name ∈ set.toList := Iff.rfl

/-- Sets with the same members are equal. -/
theorem ext_mem {left right : NameSet} (same : ∀ name, name ∈ left ↔ name ∈ right) :
    left = right := by
  have listsAgree : ∀ (first second : List String), first.Pairwise (· < ·) →
      second.Pairwise (· < ·) → (∀ name, name ∈ first ↔ name ∈ second) → first = second := by
    intro first
    induction first with
    | nil =>
      intro second _ _ agree
      cases second with
      | nil => rfl
      | cons head rest => exact absurd ((agree head).mpr (by simp)) (by simp)
    | cons head rest inductionHypothesis =>
      intro second firstAscending secondAscending agree
      cases second with
      | nil => exact absurd ((agree head).mp (by simp)) (by simp)
      | cons other others =>
        obtain ⟨aboveHead, restAscending⟩ := List.pairwise_cons.mp firstAscending
        obtain ⟨aboveOther, othersAscending⟩ := List.pairwise_cons.mp secondAscending
        have headsAgree : head = other := by
          rcases List.mem_cons.mp ((agree head).mp (by simp)) with here | headLater
          · exact here
          · rcases List.mem_cons.mp ((agree other).mpr (by simp)) with here | otherLater
            · exact here.symm
            · exact absurd (aboveHead other otherLater)
                (String.lt_asymm (aboveOther head headLater))
        subst headsAgree
        refine congrArg (head :: ·) (inductionHypothesis others restAscending othersAscending ?_)
        intro name
        constructor
        · intro listed
          rcases List.mem_cons.mp ((agree name).mp (List.mem_cons_of_mem _ listed)) with rfl | found
          · exact absurd (aboveHead name listed) (String.lt_irrefl name)
          · exact found
        · intro listed
          have either := (agree name).mpr (List.mem_cons_of_mem _ listed)
          rcases List.mem_cons.mp either with rfl | found
          · exact absurd (aboveOther name listed) (String.lt_irrefl name)
          · exact found
  obtain ⟨leftNames, leftAscending⟩ := left
  obtain ⟨rightNames, rightAscending⟩ := right
  have lists := listsAgree leftNames rightNames leftAscending rightAscending same
  subst lists
  rfl

theorem nil_ascending : ([] : List String).Pairwise (· < ·) :=
  List.Pairwise.nil

/-- The set without members. -/
def empty : NameSet := ⟨[], nil_ascending⟩

@[simp] theorem not_mem_empty (name : String) : name ∉ empty := by
  simp [mem_def, empty]

/-- The set with one more member. -/
def insert (set : NameSet) (name : String) : NameSet :=
  ⟨insertName name set.toList, insertName_ascending set.ascending⟩

@[simp] theorem mem_insert {set : NameSet} {name other : String} :
    other ∈ set.insert name ↔ other = name ∨ other ∈ set :=
  mem_insertName

/-- The set with every name of a list as a member. -/
def insertAll (set : NameSet) (names : List String) : NameSet :=
  names.foldl insert set

@[simp] theorem mem_insertAll {set : NameSet} {names : List String} {name : String} :
    name ∈ set.insertAll names ↔ name ∈ names ∨ name ∈ set := by
  induction names generalizing set with
  | nil => simp [insertAll]
  | cons head rest inductionHypothesis =>
    have unfolded : set.insertAll (head :: rest) = (set.insert head).insertAll rest := rfl
    rw [unfolded, inductionHypothesis, mem_insert, List.mem_cons]
    constructor
    · rintro (later | here | old)
      · exact Or.inl (Or.inr later)
      · exact Or.inl (Or.inl here)
      · exact Or.inr old
    · rintro ((here | later) | old)
      · exact Or.inr (Or.inl here)
      · exact Or.inl later
      · exact Or.inr (Or.inr old)

/-- The set of the names of a list. -/
def ofList (names : List String) : NameSet :=
  empty.insertAll names

@[simp] theorem mem_ofList {names : List String} {name : String} :
    name ∈ ofList names ↔ name ∈ names := by
  simp [ofList]

/-- The members of both sets. -/
def union (left right : NameSet) : NameSet :=
  left.insertAll right.toList

@[simp] theorem mem_union {left right : NameSet} {name : String} :
    name ∈ left.union right ↔ name ∈ left ∨ name ∈ right := by
  rw [union, mem_insertAll, ← mem_def, or_comm]

/-- The number of members. -/
def size (set : NameSet) : Nat :=
  set.toList.length

/-- The members in order, separated by a comma and a space. -/
def listing (set : NameSet) : String :=
  ", ".intercalate set.toList

end NameSet
end Ritual
