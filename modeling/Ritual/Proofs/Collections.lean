import Mathlib.Data.List.Forall2

namespace Ritual

/-!
# Lists and results

What is used of lists and of results without regard to what they hold: lists that are
related item by item, lists in two parts, joined lists, and results that may be errors.
Nothing here is about rituals.
-/

/-! ## Lists that are related item by item -/

section Related

variable {Left Right Result : Type} {related : Left → Right → Prop} {lefts : List Left}
  {rights : List Right}

/-- What stands at an index is related to what stands there in the other list. -/
theorem exists_related (all : List.Forall₂ related lefts rights) {index : Nat} {left : Left}
    (found : lefts[index]? = some left) :
    ∃ right, rights[index]? = some right ∧ related left right := by
  induction all generalizing index with
  | nil => cases found
  | cons first later inductionHypothesis =>
    cases index with
    | zero =>
      obtain rfl := Option.some.inj found
      exact ⟨_, rfl, first⟩
    | succ index => exact inductionHypothesis found

theorem map_eq_of_forall₂ (all : List.Forall₂ related lefts rights) {first : Left → Result}
    {second : Right → Result}
    (same : ∀ left right, related left right → first left = second right) :
    lefts.map first = rights.map second := by
  have equal := List.forall₂_map_left_iff.mpr (List.forall₂_map_right_iff.mpr (all.imp same))
  rwa [List.forall₂_eq_eq_eq] at equal

theorem filterMap_eq_of_forall₂ (all : List.Forall₂ related lefts rights)
    {first : Left → Option Result} {second : Right → Option Result}
    (same : ∀ left right, related left right → first left = second right) :
    lefts.filterMap first = rights.filterMap second := by
  have maps := congrArg (List.filterMap id) (map_eq_of_forall₂ all same)
  rwa [List.filterMap_map, List.filterMap_map] at maps

theorem forall_mem_iff_of_forall₂ (all : List.Forall₂ related lefts rights)
    {first : Left → Prop} {second : Right → Prop}
    (same : ∀ left right, related left right → (first left ↔ second right)) :
    (∀ left ∈ lefts, first left) ↔ ∀ right ∈ rights, second right := by
  induction all with
  | nil => simp
  | cons here _ inductionHypothesis =>
    rw [List.forall_mem_cons, List.forall_mem_cons, same _ _ here, inductionHypothesis]

/-- Relations of two lists may use where the right items come from. -/
theorem forall₂_of_mem {strong : Left → Right → Prop} (all : List.Forall₂ related lefts rights)
    (improve : ∀ left, ∀ right ∈ rights, related left right → strong left right) :
    List.Forall₂ strong lefts rights := by
  induction all with
  | nil => exact .nil
  | cons first _ inductionHypothesis =>
    exact .cons (improve _ _ List.mem_cons_self first)
      (inductionHypothesis fun left right listed =>
        improve left right (List.mem_cons_of_mem _ listed))

/-- What a partial function gives on a list, it gives on the items where it is defined. -/
theorem forall₂_filterMap {Item : Type} (partially : Item → Option Result) (items : List Item) :
    List.Forall₂ (fun result item => partially item = some result) (items.filterMap partially)
      (items.filter fun item => (partially item).isSome) := by
  induction items with
  | nil => exact .nil
  | cons item rest inductionHypothesis =>
    cases found : partially item with
    | none =>
      rw [List.filterMap_cons_none found, List.filter_cons_of_neg (by simp [found])]
      exact inductionHypothesis
    | some result =>
      rw [List.filterMap_cons_some found, List.filter_cons_of_pos (by simp [found])]
      exact .cons found inductionHypothesis

end Related

/-! ## Lists in parts and joined lists -/

section Lists

variable {Item : Type}

/-- An item of a list in two parts is behind the first part or in it. -/
theorem append_eq_append_cons {item : Item} {front back first rest : List Item}
    (whole : front ++ item :: back = first ++ rest) :
    (∃ middle, front = first ++ middle ∧ rest = middle ++ item :: back) ∨
      ∃ middle, first = front ++ item :: middle ∧ back = middle ++ rest := by
  rcases List.append_eq_append_iff.mp whole with ⟨middle, rfl, parts⟩ | ⟨middle, rfl, rfl⟩
  · cases middle with
    | nil => exact Or.inl ⟨[], by simp, by simpa using parts.symm⟩
    | cons head middle =>
      simp only [List.cons_append, List.cons.injEq] at parts
      rcases parts with ⟨rfl, rfl⟩
      exact Or.inr ⟨middle, rfl, rfl⟩
  · exact Or.inl ⟨middle, rfl, rfl⟩

/-- What is found in joined lists is found in one of them or between them. -/
theorem mem_of_mem_intercalate {item : Item} {separator : List Item} {lists : List (List Item)}
    (listed : item ∈ separator.intercalate lists) :
    item ∈ separator ∨ ∃ list ∈ lists, item ∈ list := by
  induction lists with
  | nil => simp [List.intercalate] at listed
  | cons first rest inductionHypothesis =>
    by_cases last : rest = []
    · subst last
      rw [List.intercalate_singleton] at listed
      exact Or.inr ⟨first, List.mem_cons_self, listed⟩
    · rw [List.intercalate_cons_of_ne_nil last, List.mem_append, List.mem_append] at listed
      rcases listed with (here | between) | later
      · exact Or.inr ⟨first, List.mem_cons_self, here⟩
      · exact Or.inl between
      · exact (inductionHypothesis later).imp_right fun ⟨list, member, found⟩ =>
          ⟨list, List.mem_cons_of_mem _ member, found⟩

/-- An item that is not the mark between lists is missing if it is in none of them. -/
theorem not_mem_intercalate {item mark : Item} (different : item ≠ mark)
    (lists : List (List Item)) :
    item ∉ [mark].intercalate lists ↔ ∀ list ∈ lists, item ∉ list := by
  induction lists with
  | nil => simp [List.intercalate]
  | cons list rest inductionHypothesis =>
    cases rest with
    | nil => simp [List.intercalate]
    | cons next others =>
      rw [List.intercalate_cons_of_ne_nil (List.cons_ne_nil next others), List.mem_append,
        not_or, inductionHypothesis]
      simp [different]

/-- Joined lists are filtered one by one if the mark between them is kept. -/
theorem filter_intercalate {property : Item → Bool} {mark : Item} (kept : property mark = true)
    (lists : List (List Item)) :
    ([mark].intercalate lists).filter property =
      [mark].intercalate (lists.map (List.filter property)) := by
  induction lists with
  | nil => rfl
  | cons list rest inductionHypothesis =>
    cases rest with
    | nil => simp [List.intercalate]
    | cons next others =>
      have single : [mark].filter property = [mark] := by simp [kept]
      have several : (next :: others).map (List.filter property) ≠ [] := by simp
      rw [List.intercalate_cons_of_ne_nil (List.cons_ne_nil next others), List.filter_append,
        List.filter_append, inductionHypothesis, single, List.map_cons (a := list),
        List.intercalate_cons_of_ne_nil several]

end Lists

/-! ## Results -/

section Results

variable {Failure Value Other : Type}

/-- A result of two steps is one of the second from one of the first. -/
theorem bind_eq_ok {first : Except Failure Value} {next : Value → Except Failure Other}
    {result : Other} :
    (first >>= next) = .ok result ↔ ∃ value, first = .ok value ∧ next value = .ok result := by
  cases first with
  | error failure => simp [bind, Except.bind]
  | ok value => simp [bind, Except.bind]

/-- Two results that are equal up to what a map forgets are the same error, or both there. -/
theorem cases_of_map_eq {forget : Value → Other} {first second : Except Failure Value}
    (same : first.map forget = second.map forget) :
    (∃ failure, first = .error failure ∧ second = .error failure) ∨
      ∃ left right, first = .ok left ∧ second = .ok right ∧ forget left = forget right := by
  cases first with
  | error failure =>
    cases second with
    | error other =>
      obtain rfl := Except.error.inj same
      exact Or.inl ⟨failure, rfl, rfl⟩
    | ok right => cases same
  | ok left =>
    cases second with
    | error other => cases same
    | ok right => exact Or.inr ⟨left, right, rfl, rfl, Except.ok.inj same⟩

end Results

end Ritual
