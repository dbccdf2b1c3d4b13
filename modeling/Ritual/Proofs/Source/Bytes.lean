import Ritual.Source.Bytes

namespace Ritual
namespace Source

/-!
# Boundaries, bytes and what is put around a source

An offset is a boundary if some characters of the source end there.  Cutting at a
boundary does not see what is put behind the source, and it moves with what is put
in front of it.  Offsets inside a character are no boundaries, but the bytes there
still belong to that character.
-/

/-- The bytes of a text are the bytes of its characters. -/
theorem byteLength_toList (text : String) : byteLength text.toList = text.utf8ByteSize := by
  have sizes : ∀ chars : List Char, byteLength chars = (String.ofList chars).utf8ByteSize := by
    intro chars
    induction chars with
    | nil => rfl
    | cons char rest inductionHypothesis =>
      have parts : String.ofList (char :: rest) = String.singleton char ++ String.ofList rest := by
        rw [String.singleton_eq_ofList, ← String.ofList_append]
        rfl
      rw [parts, String.utf8ByteSize_append, String.utf8ByteSize_singleton, byteLength,
        inductionHypothesis]
  rw [sizes, String.ofList_toList]

theorem byteLength_pos {chars : List Char} (nonempty : chars ≠ []) : 0 < byteLength chars := by
  rcases List.exists_cons_of_ne_nil nonempty with ⟨char, rest, rfl⟩
  exact Nat.add_pos_left (Char.utf8Size_pos char) _

/-! ## Boundaries -/

/-- Whether an offset lies between two characters of a source, or at one of its
ends. -/
def IsBoundary (chars : List Char) (offset : Nat) : Prop :=
  ∃ before after, chars = before ++ after ∧ byteLength before = offset

theorem isBoundary_append (before after : List Char) :
    IsBoundary (before ++ after) (byteLength before) :=
  ⟨before, after, rfl, rfl⟩

/-- Two beginnings of a source with the same number of bytes are the same. -/
theorem append_inj_of_byteLength {first second firstRest secondRest : List Char}
    (same : first ++ firstRest = second ++ secondRest)
    (length : byteLength first = byteLength second) : first = second ∧ firstRest = secondRest := by
  have cut := splitBytes_append first firstRest
  rw [same, length, splitBytes_append] at cut
  exact Prod.mk.inj (Option.some.inj cut.symm)

/-- Two boundaries in order have some characters between them. -/
theorem exists_between {chars : List Char} {start stop : Nat} (starts : IsBoundary chars start)
    (stops : IsBoundary chars stop) (ordered : start ≤ stop) :
    ∃ before between after, chars = before ++ (between ++ after) ∧ byteLength before = start ∧
      byteLength before + byteLength between = stop := by
  rcases starts with ⟨before, rest, rfl, rfl⟩
  rcases stops with ⟨longer, after, same, rfl⟩
  rcases List.append_eq_append_iff.mp same with ⟨between, rfl, rfl⟩ | ⟨more, rfl, rfl⟩
  · exact ⟨before, between, after, rfl, rfl, (byteLength_append before between).symm⟩
  · -- the first boundary is not behind the second, so nothing is between them
    by_cases nothing : more = []
    · subst nothing
      exact ⟨longer, [], rest, by simp, by simp, by simp [byteLength]⟩
    · have positive := byteLength_pos nothing
      rw [byteLength_append] at ordered
      omega

/-- Cutting at boundaries does not see what stands around the source. -/
theorem slice?_around (left : List Char) {chars : List Char} (right : List Char) {start stop : Nat}
    (starts : IsBoundary chars start) (stops : IsBoundary chars stop) :
    slice? (left ++ (chars ++ right)) (byteLength left + start) (byteLength left + stop) =
      slice? chars start stop := by
  by_cases ordered : start ≤ stop
  · rcases exists_between starts stops ordered with ⟨before, between, after, rfl, rfl, rfl⟩
    have parts : left ++ (before ++ (between ++ after) ++ right) =
        left ++ before ++ (between ++ (after ++ right)) := by simp
    rw [slice?_append, parts, ← Nat.add_assoc, ← byteLength_append, slice?_append]
  · have unordered : byteLength left + stop < byteLength left + start := by omega
    rw [slice?, if_pos unordered, slice?, if_pos (Nat.lt_of_not_le ordered)]

/-! ## The character that a byte belongs to -/

/-- Whether the byte at an offset belongs to a character with a property. -/
def ByteOf (property : Char → Prop) (chars : List Char) (offset : Nat) : Prop :=
  ∃ before char after, chars = before ++ char :: after ∧ byteLength before ≤ offset ∧
    offset < byteLength before + char.utf8Size ∧ property char

theorem ByteOf.append_left {property : Char → Prop} {chars : List Char} {offset : Nat}
    (belongs : ByteOf property chars offset) (left : List Char) :
    ByteOf property (left ++ chars) (byteLength left + offset) := by
  rcases belongs with ⟨before, char, after, rfl, starts, ends, has⟩
  refine ⟨left ++ before, char, after, by simp, ?_, ?_, has⟩
  · rw [byteLength_append]
    omega
  · rw [byteLength_append]
    omega

theorem ByteOf.append_right {property : Char → Prop} {chars : List Char} {offset : Nat}
    (belongs : ByteOf property chars offset) (right : List Char) :
    ByteOf property (chars ++ right) offset := by
  rcases belongs with ⟨before, char, after, rfl, starts, ends, has⟩
  exact ⟨before, char, after ++ right, by simp, starts, ends, has⟩

/-- Every byte of characters with a property belongs to one of them. -/
theorem byteOf_of_forall {property : Char → Prop} {chars : List Char}
    (all : ∀ char ∈ chars, property char) {offset : Nat} (inside : offset < byteLength chars) :
    ByteOf property chars offset := by
  induction chars generalizing offset with
  | nil => exact absurd inside (Nat.not_lt_zero _)
  | cons char rest inductionHypothesis =>
    rw [byteLength] at inside
    by_cases here : offset < char.utf8Size
    · exact ⟨[], char, rest, rfl, Nat.zero_le _, by simpa [byteLength] using here,
        all char List.mem_cons_self⟩
    · have later : offset - char.utf8Size < byteLength rest := by omega
      have found := (inductionHypothesis
        (fun other listed => all other (List.mem_cons_of_mem _ listed)) later).append_left [char]
      have place : byteLength [char] + (offset - char.utf8Size) = offset := by
        simp only [byteLength]
        omega
      rw [place] at found
      exact found

end Source
end Ritual
