import Ritual.Proofs.Path.Normal

namespace Ritual
namespace Path

/-!
# The places that paths lead to

A path leads from the root, or from wherever it is put, to a place that is found without
looking at any file.  Nothing is above the root, so a parent at the root stays there.  A
parent at the beginning of a relative path leads out of it, and the place keeps it.

A normal form keeps less.  It has the names of the place, but none of the parents that
lead out of a relative path, and not the root if an absolute path once leads above it.  So
two paths that never lead above their beginnings have one normal form exactly if they lead
to one place, and for other paths the two have nothing to do with each other.
-/

/-- A place, as far as it is known without looking at any file. -/
@[ext]
structure Place where
  absolute : Bool
  /-- The number of parents that lead out of a relative path. -/
  climbs : Nat
  /-- The names that lead on from there, the innermost first. -/
  names : List String
deriving DecidableEq, Repr

/-- Go on from a place.  A parent takes the innermost name away; without one it stays at
the root, or leads out of a relative path. -/
def Place.enter (place : Place) : PathComponent → Place
  | .root => ⟨true, 0, []⟩
  | .current => place
  | .name name => { place with names := name :: place.names }
  | .parent =>
    match place.names with
    | _ :: outer => { place with names := outer }
    | [] => if place.absolute then place else { place with climbs := place.climbs + 1 }

/-- The place that a text leads to. -/
def placeOf (text : String) : Place :=
  (ofString text).foldl Place.enter ⟨false, 0, []⟩

/-- Whether components lead above the place that they begin at, if that many names may be
taken away there. -/
def leadsAbove : Nat → List PathComponent → Bool
  | _, [] => false
  | 0, .parent :: _ => true
  | depth + 1, .parent :: rest => leadsAbove depth rest
  | depth, .name _ :: rest => leadsAbove (depth + 1) rest
  | depth, .root :: rest | depth, .current :: rest => leadsAbove depth rest

/-- Whether a path leads above the root or the beginning that it starts from, if only to
come back. -/
def Climbs (text : String) : Prop :=
  leadsAbove 0 (ofString text) = true

instance (text : String) : Decidable (Climbs text) :=
  inferInstanceAs (Decidable (_ = _))

/-- Whether a path begins at the root and never leads above it. -/
def KeepsRoot (text : String) : Prop :=
  ¬ Relative text ∧ ¬ Climbs text

instance (text : String) : Decidable (KeepsRoot text) :=
  inferInstanceAs (Decidable (_ ∧ _))

/-! ## What a path does below its beginning -/

section

variable {components : List PathComponent}

/-- Without a name to take away, a parent leads to a place without names. -/
theorem names_enter_parent (absolute : Bool) (climbs : Nat) :
    (Place.enter ⟨absolute, climbs, []⟩ .parent).names = [] := by
  cases absolute <;> rfl

/-- Resolving components keeps the names of the place.  What stands below the names, which
is the root or nothing, is lost with the first parent that leads above it. -/
theorem foldl_resolve_eq (inside : ∀ component ∈ components, component ≠ .root) (place : Place)
    {base : List PathComponent} (single : base.tail = []) :
    components.foldl resolve (place.names.map .name ++ base) =
      (components.foldl Place.enter place).names.map .name ++
        if leadsAbove place.names.length components then [] else base := by
  induction components generalizing place base with
  | nil => rfl
  | cons component rest inductionHypothesis =>
    rcases List.forall_mem_cons.mp inside with ⟨noRoot, later⟩
    rw [List.foldl_cons, List.foldl_cons]
    cases component with
    | root => exact absurd rfl noRoot
    | current => exact inductionHypothesis later place single
    | name name => exact inductionHypothesis later (place.enter (.name name)) single
    | parent =>
      rcases place with ⟨absolute, climbs, names⟩
      cases names with
      | cons innermost outer => exact inductionHypothesis later ⟨absolute, climbs, outer⟩ single
      | nil =>
        have lost := inductionHypothesis later (Place.enter ⟨absolute, climbs, []⟩ .parent)
          List.tail_nil
        rw [names_enter_parent, List.map_nil, List.nil_append, ite_self] at lost
        rw [List.map_nil, List.nil_append, resolve_parent, single, lost]
        rfl

/-- No parent leads out of a path that never leads above its beginning. -/
theorem climbs_foldl_enter (inside : ∀ component ∈ components, component ≠ .root)
    (place : Place) (below : leadsAbove place.names.length components = false) :
    (components.foldl Place.enter place).climbs = place.climbs := by
  induction components generalizing place with
  | nil => rfl
  | cons component rest inductionHypothesis =>
    rcases List.forall_mem_cons.mp inside with ⟨noRoot, later⟩
    rw [List.foldl_cons]
    cases component with
    | root => exact absurd rfl noRoot
    | current => exact inductionHypothesis later place below
    | name name => exact inductionHypothesis later (place.enter (.name name)) below
    | parent =>
      rcases place with ⟨absolute, climbs, names⟩
      cases names with
      | cons innermost outer => exact inductionHypothesis later ⟨absolute, climbs, outer⟩ below
      | nil => cases below

theorem absolute_foldl_enter (inside : ∀ component ∈ components, component ≠ .root)
    (place : Place) : (components.foldl Place.enter place).absolute = place.absolute := by
  induction components generalizing place with
  | nil => rfl
  | cons component rest inductionHypothesis =>
    rcases List.forall_mem_cons.mp inside with ⟨noRoot, later⟩
    rw [List.foldl_cons, inductionHypothesis later]
    cases component with
    | root => exact absurd rfl noRoot
    | current => rfl
    | name name => rfl
    | parent =>
      rcases place with ⟨absolute, climbs, names⟩
      cases names <;> cases absolute <;> rfl

end

/-! ## Paths as texts -/

variable {left right text : String}

theorem ne_root_of_mem_between (text : String) :
    ∀ component ∈ between text.toList, component ≠ .root := by
  intro component listed
  rcases plain_of_mem_between listed with rfl | ⟨name, _, rfl⟩
  · exact PathComponent.noConfusion
  · exact PathComponent.noConfusion

/-- The place of a text is found from its beginning and what lies between its slashes. -/
theorem placeOf_eq (text : String) :
    placeOf text = (between text.toList).foldl Place.enter ⟨!decide (Relative text), 0, []⟩ := by
  rw [placeOf]
  rcases ofString_eq text with same | ⟨relative, _, same⟩
  · by_cases relative : Relative text
    · rw [same, anchor, if_pos relative, decide_eq_true relative]
      rfl
    · rw [same, anchor, if_neg relative, decide_eq_false relative]
      rfl
  · rw [same, decide_eq_true relative]
    rfl

theorem climbs_iff (text : String) :
    Climbs text ↔ leadsAbove 0 (between text.toList) = true := by
  rw [Climbs]
  rcases ofString_eq text with same | ⟨_, _, same⟩
  · by_cases relative : Relative text
    · rw [same, anchor, if_pos relative]
      rfl
    · rw [same, anchor, if_neg relative]
      rfl
  · rw [same]
    rfl

theorem absolute_placeOf (text : String) :
    (placeOf text).absolute = true ↔ ¬ Relative text := by
  rw [placeOf_eq, absolute_foldl_enter (ne_root_of_mem_between text)]
  simp

theorem climbs_placeOf (below : ¬ Climbs text) : (placeOf text).climbs = 0 := by
  rw [climbs_iff, Bool.not_eq_true] at below
  rw [placeOf_eq, climbs_foldl_enter (ne_root_of_mem_between text) ⟨_, 0, []⟩ below]

/-- A normal form is made of the names of the place, and of the root if the path keeps it. -/
theorem normalized_eq_names (text : String) :
    (ofString text).normalized =
      (if KeepsRoot text then [.root] else []) ++ (placeOf text).names.reverse.map .name := by
  have single : (anchor text).reverse.tail = [] := by
    unfold anchor
    split <;> rfl
  have resolved := foldl_resolve_eq (ne_root_of_mem_between text)
    ⟨!decide (Relative text), 0, []⟩ single
  rw [List.map_nil, List.nil_append, ← placeOf_eq] at resolved
  rw [normalized_ofString, normalized_append, (settled_anchor text).normalized, resolved,
    List.reverse_append, ← List.map_reverse]
  apply congrArg (· ++ (placeOf text).names.reverse.map PathComponent.name)
  by_cases relative : Relative text <;> by_cases climbs : Climbs text <;>
    simp_all [KeepsRoot, climbs_iff, anchor]

/-- Two paths have one normal form if the names of their places are the same and both of
them keep the root, or neither does. -/
theorem samePlace_iff_names :
    SamePlace left right ↔
      (placeOf left).names = (placeOf right).names ∧ (KeepsRoot left ↔ KeepsRoot right) := by
  have injective : Function.Injective (List.map PathComponent.name) :=
    List.map_injective_iff.mpr fun _ _ => PathComponent.name.inj
  have unlike (names : List String) (path : Path) : .root :: path ≠ names.map .name := by
    intro same
    have listed : PathComponent.root ∈ names.map PathComponent.name := same ▸ List.mem_cons_self
    simp at listed
  have reversed : (placeOf left).names.reverse = (placeOf right).names.reverse ↔
      (placeOf left).names = (placeOf right).names := List.reverse_inj
  rw [SamePlace, normalized_eq_names, normalized_eq_names, ← reversed]
  by_cases keepsLeft : KeepsRoot left
  · by_cases keepsRight : KeepsRoot right
    · simp only [keepsLeft, keepsRight, if_true, List.append_right_inj, injective.eq_iff, and_true]
    · simp only [keepsLeft, keepsRight, if_true, if_false, List.nil_append, List.singleton_append,
        unlike, iff_false, not_true_eq_false, and_false]
  · by_cases keepsRight : KeepsRoot right
    · simp only [keepsLeft, keepsRight, if_true, if_false, List.nil_append, List.singleton_append,
        (unlike _ _).symm, false_iff, not_true_eq_false, and_false]
    · simp only [keepsLeft, keepsRight, if_false, List.nil_append, injective.eq_iff, and_true]

/-- For paths that never lead above their beginnings, normal forms are the same exactly if
the places are. -/
theorem samePlace_iff_placeOf (leftBelow : ¬ Climbs left) (rightBelow : ¬ Climbs right) :
    SamePlace left right ↔ placeOf left = placeOf right := by
  have absolute (text : String) (below : ¬ Climbs text) :
      KeepsRoot text ↔ (placeOf text).absolute = true := by
    rw [absolute_placeOf, KeepsRoot, and_iff_left below]
  rw [samePlace_iff_names, absolute left leftBelow, absolute right rightBelow, ← Bool.eq_iff_iff,
    Place.ext_iff, climbs_placeOf leftBelow, climbs_placeOf rightBelow]
  tauto

end Path
end Ritual
