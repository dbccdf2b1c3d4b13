namespace Ritual
namespace Source

/-!
# Byte offsets into characters

A source is a list of characters, and spans count the bytes of its UTF-8 form.
Cutting at an offset succeeds exactly if the offset lies on a character
boundary inside the source; everything else is refused and never rounded.
-/

/-- The number of bytes of the UTF-8 form. -/
def byteLength : List Char → Nat
  | [] => 0
  | char :: rest => char.utf8Size + byteLength rest

@[simp] theorem byteLength_append (left right : List Char) :
    byteLength (left ++ right) = byteLength left + byteLength right := by
  induction left with
  | nil => simp [byteLength]
  | cons char rest inductionHypothesis => simp [byteLength, inductionHypothesis, Nat.add_assoc]

/-- Cut the characters in two at a byte offset, if it is a character boundary. -/
def splitBytes : Nat → List Char → Option (List Char × List Char)
  | 0, chars => some ([], chars)
  | _ + 1, [] => none
  | offset + 1, char :: rest =>
    if char.utf8Size ≤ offset + 1 then
      (splitBytes (offset + 1 - char.utf8Size) rest).map fun (before, after) =>
        (char :: before, after)
    else
      none

/-- Every boundary is found: cutting behind a prefix gives that prefix back. -/
@[simp] theorem splitBytes_append (left right : List Char) :
    splitBytes (byteLength left) (left ++ right) = some (left, right) := by
  induction left with
  | nil => simp [byteLength, splitBytes]
  | cons char rest inductionHypothesis =>
    have positive : 0 < char.utf8Size := Char.utf8Size_pos char
    obtain ⟨size, sizeEq⟩ : ∃ size, byteLength (char :: rest) = size + 1 :=
      ⟨byteLength (char :: rest) - 1, by simp only [byteLength]; omega⟩
    have remaining : size + 1 - char.utf8Size = byteLength rest := by
      rw [← sizeEq]; simp [byteLength]
    have fits : char.utf8Size ≤ size + 1 := by rw [← sizeEq]; simp [byteLength]
    rw [sizeEq, List.cons_append, splitBytes, if_pos fits, remaining, inductionHypothesis]
    rfl

/-- The characters between two byte offsets, if both are boundaries and they
are in order. -/
def slice? (chars : List Char) (start stop : Nat) : Option (List Char) :=
  if stop < start then none
  else do
    let (_, after) ← splitBytes start chars
    let (between, _) ← splitBytes (stop - start) after
    pure between

@[simp] theorem slice?_append (left middle right : List Char) :
    slice? (left ++ (middle ++ right)) (byteLength left) (byteLength left + byteLength middle) =
      some middle := by
  simp [slice?]

end Source
end Ritual
