import Ritual.Source.Bytes

namespace Ritual
namespace Source

/-!
# Positions in a source

Offsets count bytes from zero, lines and columns count from one, and a column
counts characters.  Only the line feed starts a new line.  The numbers that a
reader of a report sees are 32 bits wide and wrap; a position itself does not.
-/

/-- A half-open range of bytes. -/
structure Span where
  start : Nat
  stop : Nat
deriving DecidableEq, Repr

namespace Span

/-- The number of bytes, for a span that does not end before its start. -/
def length (span : Span) : Nat :=
  span.stop - span.start

/-- Whether the span covers no byte. -/
def isEmpty (span : Span) : Bool :=
  span.start == span.stop

end Span

/-- A line and a column as they are reported. -/
structure Location where
  line : UInt32
  column : UInt32
deriving DecidableEq, Repr

/-- A place between two characters of a source. -/
structure Position where
  offset : Nat
  line : Nat
  column : Nat
deriving DecidableEq, Repr

namespace Position

/-- The place before the first character. -/
def start : Position :=
  ⟨0, 1, 1⟩

/-- The place behind one more character. -/
def step (position : Position) (char : Char) : Position :=
  if char = '\n' then ⟨position.offset + char.utf8Size, position.line + 1, 1⟩
  else ⟨position.offset + char.utf8Size, position.line, position.column + 1⟩

/-- The place behind some more characters. -/
def after (position : Position) (chars : List Char) : Position :=
  chars.foldl step position

@[simp] theorem after_nil (position : Position) : position.after [] = position := rfl

@[simp] theorem after_cons (position : Position) (char : Char) (rest : List Char) :
    position.after (char :: rest) = (position.step char).after rest := rfl

theorem after_append (position : Position) (left right : List Char) :
    position.after (left ++ right) = (position.after left).after right := by
  simp [after]

theorem offset_step (position : Position) (char : Char) :
    (position.step char).offset = position.offset + char.utf8Size := by
  unfold step
  split <;> rfl

theorem offset_after (position : Position) (chars : List Char) :
    (position.after chars).offset = position.offset + byteLength chars := by
  induction chars generalizing position with
  | nil => simp [byteLength]
  | cons char rest inductionHypothesis =>
    rw [after_cons, inductionHypothesis, offset_step, byteLength, Nat.add_assoc]

/-- The place as it is reported. -/
def location (position : Position) : Location :=
  ⟨UInt32.ofNat position.line, UInt32.ofNat position.column⟩

end Position
end Source
end Ritual
