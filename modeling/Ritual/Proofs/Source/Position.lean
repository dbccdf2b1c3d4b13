import Mathlib.Data.List.Count
import Mathlib.Data.List.Induction
import Ritual.Source.Position

namespace Ritual
namespace Source

/-!
# Lines and columns

A position behind some characters has the line and the column that counting
gives.  Reported numbers are 32 bits wide, so everything said about them is said
of a source that the counters can count; `countable_of_length` gives a bound on
the length that suffices.  `textAt` goes from a reported line and column back to
the source, by counting alone and without a position.
-/

theorem byteLength_reverse (chars : List Char) : byteLength chars.reverse = byteLength chars := by
  induction chars with
  | nil => rfl
  | cons char rest inductionHypothesis =>
    rw [List.reverse_cons, byteLength_append, inductionHypothesis, byteLength, byteLength,
      byteLength, Nat.add_zero, Nat.add_comm]

namespace Position

theorem line_after (position : Position) (chars : List Char) :
    (position.after chars).line = position.line + chars.count '\n' := by
  induction chars generalizing position with
  | nil => rfl
  | cons char rest inductionHypothesis =>
    rw [after_cons, inductionHypothesis, List.count_cons]
    unfold step
    by_cases lineFeed : char = '\n'
    · simp only [lineFeed, beq_self_eq_true, if_true]
      omega
    · simp only [if_neg lineFeed, beq_iff_eq]
      omega

theorem line_after_of_oneLine (position : Position) {chars : List Char} (oneLine : '\n' ∉ chars) :
    (position.after chars).line = position.line := by
  rw [line_after, List.count_eq_zero.mpr oneLine, Nat.add_zero]

theorem column_after_of_oneLine (position : Position) {chars : List Char}
    (oneLine : '\n' ∉ chars) : (position.after chars).column = position.column + chars.length := by
  induction chars generalizing position with
  | nil => rfl
  | cons char rest inductionHypothesis =>
    have different : char ≠ '\n' := fun same => oneLine (by simp [same])
    have later : '\n' ∉ rest := fun listed => oneLine (List.mem_cons_of_mem _ listed)
    rw [after_cons, inductionHypothesis _ later, step, if_neg different, List.length_cons]
    simp only
    omega

/-! ## The order of positions -/

/-- Whether a position comes first by its line and then by its column. -/
def Precedes (first second : Position) : Prop :=
  first.line < second.line ∨ first.line = second.line ∧ first.column < second.column

theorem Precedes.trans {first second third : Position} (left : first.Precedes second)
    (right : second.Precedes third) : first.Precedes third := by
  simp only [Precedes] at left right ⊢
  omega

theorem precedes_step (position : Position) (char : Char) :
    position.Precedes (position.step char) := by
  unfold step
  by_cases lineFeed : char = '\n'
  · rw [if_pos lineFeed]
    exact Or.inl (Nat.lt_succ_self _)
  · rw [if_neg lineFeed]
    exact Or.inr ⟨rfl, Nat.lt_succ_self _⟩

theorem precedes_after (position : Position) {chars : List Char} (nonempty : chars ≠ []) :
    position.Precedes (position.after chars) := by
  induction chars generalizing position with
  | nil => exact absurd rfl nonempty
  | cons char rest inductionHypothesis =>
    cases rest with
    | nil => exact precedes_step position char
    | cons next others =>
      exact (precedes_step position char).trans (inductionHypothesis _ (by simp))

/-! ## Counters that do not overflow -/

theorem line_after_le (position : Position) (chars : List Char) :
    (position.after chars).line ≤ position.line + chars.length := by
  rw [line_after]
  exact Nat.add_le_add_left List.count_le_length _

theorem one_le_column_step (position : Position) (char : Char) :
    1 ≤ (position.step char).column := by
  unfold step
  split
  · exact Nat.le_refl _
  · exact Nat.le_add_left _ _

theorem one_le_column_after {position : Position} (positive : 1 ≤ position.column)
    (chars : List Char) : 1 ≤ (position.after chars).column := by
  induction chars generalizing position with
  | nil => exact positive
  | cons char rest inductionHypothesis => exact inductionHypothesis (one_le_column_step _ char)

theorem column_after_le (position : Position) (positive : 1 ≤ position.column)
    (chars : List Char) : (position.after chars).column ≤ position.column + chars.length := by
  induction chars generalizing position with
  | nil => exact Nat.le_refl _
  | cons char rest inductionHypothesis =>
    have stepped : (position.step char).column ≤ position.column + 1 := by
      unfold step
      split
      · exact Nat.le_add_left _ _
      · exact Nat.le_refl _
    have later := inductionHypothesis (position.step char) (one_le_column_step _ char)
    rw [after_cons, List.length_cons]
    omega

end Position

/-- Whether every line and every column of a source, that of its end included,
fits into 32 bits. -/
def Countable (chars : List Char) : Prop :=
  ∀ before, before <+: chars → (Position.start.after before).line < UInt32.size ∧
    (Position.start.after before).column < UInt32.size

theorem countable_of_length {chars : List Char} (short : chars.length < UInt32.size - 1) :
    Countable chars := by
  intro before part
  have shorter := part.length_le
  have line := Position.line_after_le Position.start before
  have column := Position.column_after_le Position.start (Nat.le_refl 1) before
  simp only [Position.start] at line column ⊢
  omega

theorem Position.line_toNat {position : Position} (small : position.line < UInt32.size) :
    position.location.line.toNat = position.line := by
  simp only [Position.location, UInt32.toNat_ofNat']
  exact Nat.mod_eq_of_lt small

theorem Position.column_toNat {position : Position} (small : position.column < UInt32.size) :
    position.location.column.toNat = position.column := by
  simp only [Position.location, UInt32.toNat_ofNat']
  exact Nat.mod_eq_of_lt small

namespace Countable

variable {before after : List Char}

theorem line_lt (countable : Countable (before ++ after)) :
    (Position.start.after before).line < UInt32.size :=
  (countable before (List.prefix_append before after)).1

theorem column_lt (countable : Countable (before ++ after)) :
    (Position.start.after before).column < UInt32.size :=
  (countable before (List.prefix_append before after)).2

end Countable

/-! ## From a line and a column to the text -/

/-- The characters behind some number of line feeds. -/
def behindLineFeeds : Nat → List Char → List Char
  | 0, chars => chars
  | count + 1, chars => behindLineFeeds count ((chars.dropWhile (· != '\n')).drop 1)

/-- The characters from a line and a column on, both counted from one. -/
def textAt (location : Location) (chars : List Char) : List Char :=
  (behindLineFeeds (location.line.toNat - 1) chars).drop (location.column.toNat - 1)

theorem behindLineFeeds_cons (count : Nat) (char : Char) (rest : List Char) :
    behindLineFeeds (count + 1) (char :: rest) =
      if char = '\n' then behindLineFeeds count rest else behindLineFeeds (count + 1) rest := by
  by_cases lineFeed : char = '\n'
  · simp [behindLineFeeds, lineFeed]
  · simp [behindLineFeeds, lineFeed]

theorem behindLineFeeds_count {lines : List Char} (ended : ∀ last ∈ lines.getLast?, last = '\n')
    (after : List Char) : behindLineFeeds (lines.count '\n') (lines ++ after) = after := by
  induction lines with
  | nil => rfl
  | cons char rest inductionHypothesis =>
    cases rest with
    | nil =>
      obtain rfl : char = '\n' := ended char rfl
      rfl
    | cons next others =>
      have later := inductionHypothesis fun last found => ended last (by simpa using found)
      rw [List.cons_append, List.count_cons]
      by_cases lineFeed : char = '\n'
      · rw [if_pos (by simp [lineFeed]), behindLineFeeds_cons, if_pos lineFeed]
        exact later
      · have listed : '\n' ∈ next :: others := by
          have last : (next :: others).getLast? = some ((next :: others).getLast (by simp)) :=
            List.getLast?_eq_some_getLast (by simp)
          have same := ended _ (by simpa using last)
          rw [← same]
          exact List.getLast_mem _
        obtain ⟨count, positive⟩ := Nat.exists_eq_succ_of_ne_zero
          (Nat.ne_of_gt (List.count_pos_iff.mpr listed))
        rw [if_neg (by simpa using lineFeed), Nat.add_zero, positive, Nat.succ_eq_add_one,
          behindLineFeeds_cons, if_neg lineFeed, ← Nat.succ_eq_add_one, ← positive]
        exact later

theorem exists_lines (chars : List Char) :
    ∃ lines last, chars = lines ++ last ∧ '\n' ∉ last ∧
      ∀ ending ∈ lines.getLast?, ending = '\n' := by
  induction chars using List.reverseRecOn with
  | nil => exact ⟨[], [], rfl, List.not_mem_nil, by simp⟩
  | append_singleton front char inductionHypothesis =>
    by_cases lineFeed : char = '\n'
    · exact ⟨front ++ [char], [], by simp, List.not_mem_nil, by simp [lineFeed]⟩
    · rcases inductionHypothesis with ⟨lines, last, rfl, oneLine, ended⟩
      refine ⟨lines, last ++ [char], by simp, ?_, ended⟩
      simpa [oneLine] using Ne.symm lineFeed

namespace Position

theorem column_after_lines {lines : List Char} (ended : ∀ last ∈ lines.getLast?, last = '\n') :
    (start.after lines).column = 1 := by
  induction lines using List.reverseRecOn with
  | nil => rfl
  | append_singleton front char _ =>
    obtain rfl : char = '\n' := ended char (by simp)
    rw [after_append]
    rfl

end Position

/-- What stands at the reported place of a position is what follows it. -/
theorem Countable.textAt_after {before after : List Char}
    (countable : Countable (before ++ after)) :
    textAt (Position.start.after before).location (before ++ after) = after := by
  rw [textAt, Position.line_toNat countable.line_lt, Position.column_toNat countable.column_lt]
  rcases exists_lines before with ⟨lines, last, rfl, oneLine, ended⟩
  have line : (Position.start.after (lines ++ last)).line - 1 = lines.count '\n' := by
    rw [Position.after_append, Position.line_after_of_oneLine _ oneLine, Position.line_after]
    simp only [Position.start]
    omega
  have column : (Position.start.after (lines ++ last)).column - 1 = last.length := by
    rw [Position.after_append, Position.column_after_of_oneLine _ oneLine,
      Position.column_after_lines ended]
    omega
  rw [line, column, List.append_assoc, behindLineFeeds_count ended, List.drop_left]

end Source
end Ritual
