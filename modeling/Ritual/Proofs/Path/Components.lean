import Mathlib.Data.List.Basic
import Ritual.Path
import Ritual.Proofs.Text.OneLine

namespace Ritual
namespace Path

/-!
# The components that a text spells

A text is cut at its slashes, and what lies between two of them is a component by itself.
So the components of two texts with a slash between them are those of the one and those of
the other, and only the beginning of a text is read in a way of its own.  Paths are joined
by their texts, and names that are written with slashes between them are read back.
-/

/-- Whether a text is a component of its own and no step to another directory. -/
def Plain (name : String) : Prop :=
  '/' ∉ name.toList ∧ name ∉ ["", ".", ".."]

instance (name : String) : Decidable (Plain name) :=
  inferInstanceAs (Decidable (_ ∧ _))

/-- The components between the slashes of a text. -/
def between (chars : List Char) : Path :=
  (parts chars).filterMap component?

theorem parts_eq_splitOn (chars : List Char) : parts chars = chars.splitOn '/' := by
  induction chars with
  | nil => rfl
  | cons char rest inductionHypothesis =>
    rw [parts, inductionHypothesis, List.splitOn_cons_eq_if_modifyHead]
    cases found : rest.splitOn '/' with
    | nil => exact absurd found (List.splitOn_ne_nil _ _)
    | cons part others => simp only [beq_iff_eq, List.modifyHead_cons]

@[simp] theorem between_nil : between [] = [] :=
  rfl

/-- A slash parts the components of a text. -/
@[simp] theorem between_append_slash (left right : List Char) :
    between (left ++ '/' :: right) = between left ++ between right := by
  simp only [between, parts_eq_splitOn, List.splitOn_append_cons_self, List.filterMap_append]

@[simp] theorem between_slash (rest : List Char) : between ('/' :: rest) = between rest :=
  between_append_slash [] rest

theorem component?_of_plain {name : String} (plain : Plain name) :
    component? name.toList = some (.name name) := by
  rcases plain with ⟨_, other⟩
  simp only [List.mem_cons, List.not_mem_nil, or_false, not_or] at other
  rcases other with ⟨nonempty, dot, dots⟩
  have noEmpty : name.toList ≠ [] := fun same => nonempty (String.toList_inj.mp same)
  have noDot : name.toList ≠ ['.'] := fun same => dot (String.toList_inj.mp same)
  have noDots : name.toList ≠ ['.', '.'] := fun same => dots (String.toList_inj.mp same)
  rw [component?, if_neg (not_or.mpr ⟨noEmpty, noDot⟩), if_neg noDots, String.ofList_toList]

theorem between_of_plain {name : String} (plain : Plain name) :
    between name.toList = [.name name] := by
  rw [between, parts_eq_splitOn, List.splitOn_eq_singleton plain.1]
  simp [component?_of_plain plain]

theorem no_slash_of_mem_parts {chars part : List Char} (listed : part ∈ parts chars) :
    '/' ∉ part := by
  induction chars generalizing part with
  | nil => simp_all [parts]
  | cons char rest inductionHypothesis =>
    rw [parts] at listed
    split at listed
    · next found => exact absurd (parts_eq_splitOn rest ▸ found) (List.splitOn_ne_nil _ _)
    · next first others found =>
      have of_rest (piece : List Char) (one : piece ∈ first :: others) : '/' ∉ piece :=
        inductionHypothesis (found ▸ one)
      split at listed
      · rcases List.mem_cons.mp listed with rfl | one
        · exact List.not_mem_nil
        · exact of_rest part one
      · next other =>
        rcases List.mem_cons.mp listed with rfl | one
        · exact fun slash => (List.mem_cons.mp slash).elim (fun same => other same.symm)
            (of_rest first List.mem_cons_self)
        · exact of_rest part (List.mem_cons_of_mem _ one)

/-- What lies between slashes is a plain name or leads to the directory around. -/
theorem plain_of_mem_between {chars : List Char} {component : PathComponent}
    (listed : component ∈ between chars) :
    component = .parent ∨ ∃ name, Plain name ∧ component = .name name := by
  rcases List.mem_filterMap.mp listed with ⟨part, among, found⟩
  rw [component?] at found
  split at found
  · cases found
  · next other =>
    rw [not_or] at other
    split at found
    · cases found
      exact .inl rfl
    · next notDots =>
      cases found
      refine .inr ⟨String.ofList part, ⟨?_, ?_⟩, rfl⟩
      · rw [String.toList_ofList]
        exact no_slash_of_mem_parts among
      · simp only [List.mem_cons, List.not_mem_nil, or_false, not_or, ← String.toList_inj,
          String.toList_ofList]
        exact ⟨other.1, other.2, notDots⟩

/-- Plain names with slashes between them are read back as they were written. -/
theorem parts_intercalate {names : List String} (nonempty : names ≠ [])
    (plain : ∀ name ∈ names, Plain name) :
    parts ("/".intercalate names).toList = names.map String.toList := by
  rw [parts_eq_splitOn]
  exact Text.splitOn_intercalate rfl nonempty fun name listed => (plain name listed).1

theorem between_intercalate {names : List String} (plain : ∀ name ∈ names, Plain name) :
    between ("/".intercalate names).toList = names.map .name := by
  by_cases none : names = []
  · rw [none]
    rfl
  · rw [between, parts_intercalate none plain, List.filterMap_map]
    exact List.filterMap_eq_map_iff_forall_eq_some.mpr fun name member =>
      component?_of_plain (plain name member)

/-! ## The beginning of a text -/

/-- Whether a text is a path that begins where it is put. -/
def Relative (text : String) : Prop :=
  text.toList.head? ≠ some '/'

instance (text : String) : Decidable (Relative text) :=
  inferInstanceAs (Decidable (_ ≠ _))

/-- What a text begins at: the root, or wherever it is put. -/
def anchor (text : String) : Path :=
  if Relative text then [] else [.root]

/-- A text spells its beginning and what lies between its slashes.  A dot counts as its
first part only, and there it says no more than that the text is relative. -/
theorem ofString_eq (text : String) :
    ofString text = anchor text ++ between text.toList ∨
      Relative text ∧ (parts text.toList).head? = some ['.'] ∧
        ofString text = .current :: between text.toList := by
  rw [ofString]
  split
  · next rest found =>
    left
    rw [anchor, if_neg (by simp [Relative, found]), found, between_slash]
    rfl
  · next noSlash =>
    have relative : Relative text := by
      intro first
      rcases List.head?_eq_some_iff.mp first with ⟨rest, found⟩
      exact noSlash rest found
    split
    · next rest found =>
      right
      rw [between, found]
      exact ⟨relative, rfl, rfl⟩
    · left
      rw [anchor, if_pos relative]
      rfl

theorem ofString_slash (text : String) :
    ofString ("/" ++ text) = .root :: between text.toList := by
  rw [ofString, String.toList_append]
  rfl

/-- Nothing stands before the slash that a text begins with. -/
theorem head?_parts_of_not_relative {text : String} (absolute : ¬ Relative text) :
    (parts text.toList).head? = some [] := by
  rcases List.head?_eq_some_iff.mp (not_not.mp absolute) with ⟨rest, found⟩
  rw [found, parts_eq_splitOn, ← List.nil_append ('/' :: rest), List.splitOn_append_cons_self]
  rfl

/-- Plain names with slashes between them are the path of these names. -/
theorem ofString_intercalate {names : List String} (plain : ∀ name ∈ names, Plain name) :
    ofString ("/".intercalate names) = names.map .name := by
  cases names with
  | nil => rfl
  | cons first rest =>
    have head : (parts ("/".intercalate (first :: rest)).toList).head? = some first.toList := by
      rw [parts_intercalate (List.cons_ne_nil _ _) plain]
      rfl
    have other : first ∉ ["", ".", ".."] := (plain first List.mem_cons_self).2
    rcases ofString_eq ("/".intercalate (first :: rest)) with same | ⟨_, dot, _⟩
    · by_cases relative : Relative ("/".intercalate (first :: rest))
      · rw [same, anchor, if_pos relative, between_intercalate plain]
        rfl
      · rw [head?_parts_of_not_relative relative, Option.some_inj] at head
        have empty : first = "" := String.toList_inj.mp head.symm
        exact absurd other (by simp [empty])
    · rw [head, Option.some_inj] at dot
      have same : first = "." := String.toList_inj.mp dot
      exact absurd other (by simp [same])

/-- The text of a path with another one added to it: one that begins at the root stands
alone, and one that does not comes behind a slash. -/
def join (path added : String) : String :=
  if ¬ Relative added then added
  else if path = "" ∨ path.toList.getLast? = some '/' then path ++ added
  else path ++ "/" ++ added

/-- A path that is added brings its components with it. -/
theorem between_join (path : String) {added : String} (relative : Relative added) :
    between (join path added).toList = between path.toList ++ between added.toList := by
  rw [join, if_neg (not_not_intro relative)]
  split
  · next ends =>
    rcases ends with rfl | ends
    · simp
    · rcases List.getLast?_eq_some_iff.mp ends with ⟨front, found⟩
      simp [found]
  · simp

/-- What stands behind a path does not change its beginning. -/
theorem anchor_append {path : String} (more : String) (nonempty : path ≠ "") :
    anchor (path ++ more) = anchor path := by
  have first : (path ++ more).toList.head? = path.toList.head? := by
    rw [String.toList_append]
    exact List.head?_append_of_ne_nil _ fun none => nonempty (String.toList_inj.mp none)
  have same : Relative (path ++ more) ↔ Relative path := by
    unfold Relative
    rw [first]
  exact if_congr same rfl rfl

theorem anchor_join (path : String) {added : String} (relative : Relative added) :
    anchor (join path added) = anchor path := by
  rw [join, if_neg (not_not_intro relative)]
  by_cases empty : path = ""
  · rw [empty, if_pos (.inl rfl), String.empty_append, anchor, if_pos relative]
    rfl
  · split
    · rw [anchor_append added empty]
    · rw [String.append_assoc, anchor_append _ empty]

end Path
end Ritual
