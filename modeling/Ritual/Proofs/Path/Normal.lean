import Ritual.Proofs.Path.Components

namespace Ritual
namespace Path

/-!
# Normal forms of paths

A normal form is a run of plain names, which begins at the root or wherever it is put.
Every component that is resolved keeps that shape, so the text of a normal form is read
back as that form, and taking normal forms twice changes nothing.  A name and the way back
from it leave no trace, whatever stands before them and behind them.
-/

/-- Whether a path is a run of plain names, with or without the root in front. -/
def Settled (path : Path) : Prop :=
  ∃ names : List String, (∀ name ∈ names, Plain name) ∧
    (path = names.map .name ∨ path = .root :: names.map .name)

/-! ## What resolving a component keeps -/

@[simp] theorem resolve_name (stack : List PathComponent) (name : String) :
    resolve stack (.name name) = .name name :: stack :=
  rfl

@[simp] theorem resolve_parent (stack : List PathComponent) :
    resolve stack .parent = stack.tail :=
  rfl

theorem settled_nil : Settled [] :=
  ⟨[], by simp, .inl rfl⟩

theorem settled_anchor (text : String) : Settled (anchor text) := by
  by_cases relative : Relative text
  · rw [anchor, if_pos relative]
    exact settled_nil
  · rw [anchor, if_neg relative]
    exact ⟨[], by simp, .inr rfl⟩

namespace Settled

variable {path : Path}

theorem concat {name : String} (settled : Settled path) (plain : Plain name) :
    Settled (path ++ [.name name]) := by
  rcases settled with ⟨names, all, shape⟩
  refine ⟨names ++ [name], ?_, ?_⟩
  · intro other listed
    rcases List.mem_append.mp listed with one | one
    · exact all other one
    · exact List.mem_singleton.mp one ▸ plain
  · rcases shape with rfl | rfl
    · exact .inl (by simp)
    · exact .inr (by simp)

/-- The last component is taken away, and from the root alone the root itself. -/
theorem dropLast (settled : Settled path) : Settled path.dropLast := by
  rcases settled with ⟨names, all, shape⟩
  have fewer : ∀ name ∈ names.dropLast, Plain name := fun name listed =>
    all name (List.dropLast_subset names listed)
  rcases shape with rfl | rfl
  · exact ⟨names.dropLast, fewer, .inl List.map_dropLast.symm⟩
  · cases names with
    | nil => exact settled_nil
    | cons first rest =>
      exact ⟨(first :: rest).dropLast, fewer, .inr (by simp [List.map_dropLast])⟩

/-- Resolving what lies between slashes keeps a path settled. -/
theorem resolve {stack : List PathComponent} {component : PathComponent}
    (settled : Settled stack.reverse)
    (inside : component = .parent ∨ ∃ name, Plain name ∧ component = .name name) :
    Settled (resolve stack component).reverse := by
  rcases inside with rfl | ⟨name, plain, rfl⟩
  · rw [resolve_parent, ← List.dropLast_reverse]
    exact settled.dropLast
  · rw [resolve_name, List.reverse_cons]
    exact settled.concat plain

theorem foldl_resolve {components stack : List PathComponent} (settled : Settled stack.reverse)
    (inside : ∀ component ∈ components,
      component = .parent ∨ ∃ name, Plain name ∧ component = .name name) :
    Settled (components.foldl Path.resolve stack).reverse := by
  induction components generalizing stack with
  | nil => exact settled
  | cons component rest inductionHypothesis =>
    rw [List.forall_mem_cons] at inside
    exact inductionHypothesis (settled.resolve inside.1) inside.2

/-! ## What a settled path is by itself -/

/-- A settled path is its own normal form. -/
theorem normalized (settled : Settled path) : path.normalized = path := by
  have names_kept (names : List String) (stack : List PathComponent) :
      (names.map PathComponent.name).foldl Path.resolve stack =
        (names.map PathComponent.name).reverse ++ stack := by
    induction names generalizing stack with
    | nil => rfl
    | cons name rest inductionHypothesis =>
      rw [List.map_cons, List.foldl_cons, inductionHypothesis, resolve_name, List.reverse_cons,
        List.append_assoc]
      rfl
  rcases settled with ⟨names, _, rfl | rfl⟩
  · rw [Path.normalized, names_kept, List.append_nil, List.reverse_reverse]
  · rw [Path.normalized, List.foldl_cons, names_kept, List.reverse_append, List.reverse_reverse]
    rfl

theorem not_mem_current (settled : Settled path) : .current ∉ path := by
  rcases settled with ⟨names, _, rfl | rfl⟩ <;> simp

theorem not_mem_parent (settled : Settled path) : .parent ∉ path := by
  rcases settled with ⟨names, _, rfl | rfl⟩ <;> simp

end Settled

theorem text_names (names : List String) :
    text (names.map .name) = "/".intercalate names := by
  have spelled : (names.map PathComponent.name).map componentText = names := by
    rw [List.map_map]
    exact List.map_id names
  cases names with
  | nil => rfl
  | cons first rest => exact congrArg ("/".intercalate ·) spelled

theorem text_root_names (names : List String) :
    text (.root :: names.map .name) = "/" ++ "/".intercalate names := by
  rw [text, List.map_map]
  exact congrArg ("/" ++ "/".intercalate ·) (List.map_id names)

/-- A settled path is read back from its text. -/
theorem Settled.ofString_text {path : Path} (settled : Settled path) :
    ofString path.text = path := by
  rcases settled with ⟨names, plain, rfl | rfl⟩
  · rw [text_names, ofString_intercalate plain]
  · rw [text_root_names, ofString_slash, between_intercalate plain]

/-! ## Normal forms -/

theorem normalized_append (left right : Path) :
    (left ++ right).normalized = (right.foldl resolve left.normalized.reverse).reverse := by
  rw [normalized, normalized, List.reverse_reverse, List.foldl_append]

/-- A name and the way back from it are no part of a normal form. -/
theorem normalized_detour (left right : Path) (name : String) :
    (left ++ .name name :: .parent :: right).normalized = (left ++ right).normalized := by
  rw [normalized_append, normalized_append]
  rfl

/-- The normal form is taken of the beginning of a text and what lies between its slashes. -/
theorem normalized_ofString (text : String) :
    (ofString text).normalized = (anchor text ++ between text.toList).normalized := by
  rcases ofString_eq text with same | ⟨relative, _, same⟩
  · rw [same]
  · rw [same, anchor, if_pos relative]
    rfl

theorem settled_normalized (text : String) : Settled (ofString text).normalized := by
  rw [normalized_ofString, normalized_append, (settled_anchor text).normalized]
  apply Settled.foldl_resolve
  · rw [List.reverse_reverse]
    exact settled_anchor text
  · exact fun component => plain_of_mem_between

/-- The text of the normal form of a path. -/
def normalText (text : String) : String :=
  (ofString text).normalized.text

theorem ofString_normalText (text : String) :
    ofString (normalText text) = (ofString text).normalized :=
  (settled_normalized text).ofString_text

/-- Whether two texts have one normal form. -/
def SamePlace (left right : String) : Prop :=
  (ofString left).normalized = (ofString right).normalized

instance (left right : String) : Decidable (SamePlace left right) :=
  inferInstanceAs (Decidable (_ = _))

/-- Normal forms differ if their texts do. -/
theorem samePlace_iff (left right : String) :
    SamePlace left right ↔ normalText left = normalText right := by
  constructor
  · exact congrArg Path.text
  · intro same
    rw [SamePlace, ← ofString_normalText, same, ofString_normalText]

theorem not_mem_ofString_normalText (text : String) :
    .current ∉ ofString (normalText text) ∧ .parent ∉ ofString (normalText text) := by
  rw [ofString_normalText]
  exact ⟨(settled_normalized text).not_mem_current, (settled_normalized text).not_mem_parent⟩

/-- Taking the normal form of a path twice is taking it once. -/
theorem normalText_normalText (text : String) :
    normalText (normalText text) = normalText text := by
  rw [normalText, ofString_normalText, (settled_normalized text).normalized]
  rfl

/-- The way into a directory of a path and back changes nothing. -/
theorem normalText_join_detour (path : String) {name added : String} (plain : Plain name)
    (relative : Relative added) :
    normalText (join (join (join path name) "..") added) = normalText (join path added) := by
  have relativeName : Relative name := by
    intro first
    exact plain.1 (List.mem_of_mem_head? (Option.mem_def.mpr first))
  have relativeDots : Relative ".." := by decide
  have dots : between "..".toList = [.parent] := by decide
  rw [normalText, normalText, normalized_ofString, normalized_ofString,
    anchor_join _ relative, anchor_join _ relativeDots, anchor_join _ relativeName,
    anchor_join _ relative, between_join _ relative, between_join _ relativeDots,
    between_join _ relativeName, between_join _ relative, between_of_plain plain, dots]
  have detour := normalized_detour (anchor path ++ between path.toList)
    (between added.toList) name
  simp only [List.append_assoc, List.cons_append, List.nil_append] at detour ⊢
  rw [detour]

end Path
end Ritual
