import Ritual.Proofs.Source.Position

namespace Ritual
namespace Source

/-!
# A carriage return before every line feed

Putting a carriage return before every line feed keeps what stands on a line, and hence
every line and every column behind it.  Offsets move by the number of line feeds passed.
-/

/-- The characters with a carriage return before every line feed. -/
def withReturns (chars : List Char) : List Char :=
  chars.flatMap fun char => if char = '\n' then ['\r', '\n'] else [char]

@[simp] theorem withReturns_nil : withReturns [] = [] :=
  rfl

@[simp] theorem withReturns_append (left right : List Char) :
    withReturns (left ++ right) = withReturns left ++ withReturns right :=
  List.flatMap_append

@[simp] theorem withReturns_lineFeed (rest : List Char) :
    withReturns ('\n' :: rest) = '\r' :: '\n' :: withReturns rest :=
  rfl

theorem withReturns_cons {char : Char} (different : char ≠ '\n') (rest : List Char) :
    withReturns (char :: rest) = char :: withReturns rest := by
  rw [withReturns, List.flatMap_cons, if_neg different]
  rfl

theorem withReturns_of_oneLine {chars : List Char} (oneLine : '\n' ∉ chars) :
    withReturns chars = chars := by
  induction chars with
  | nil => rfl
  | cons char rest inductionHypothesis =>
    have different : char ≠ '\n' := fun same => oneLine (by simp [same])
    have later : '\n' ∉ rest := fun listed => oneLine (List.mem_cons_of_mem _ listed)
    rw [withReturns_cons different, inductionHypothesis later]

theorem withReturns_append_of_oneLine {front : List Char} (oneLine : '\n' ∉ front)
    (rest : List Char) : withReturns (front ++ rest) = front ++ withReturns rest := by
  rw [withReturns_append, withReturns_of_oneLine oneLine]

/-- What ends with a line feed, or is empty, still does. -/
theorem withReturns_ended {lines : List Char} (ended : ∀ last ∈ lines.getLast?, last = '\n') :
    ∀ last ∈ (withReturns lines).getLast?, last = '\n' := by
  rcases List.eq_nil_or_concat lines with rfl | ⟨front, last, rfl⟩
  · exact ended
  · rw [List.concat_eq_append] at ended ⊢
    obtain rfl : last = '\n' := ended last (by simp)
    simp

/-- The text with a carriage return before every line feed. -/
def returned (text : String) : String :=
  String.ofList (withReturns text.toList)

@[simp] theorem toList_returned (text : String) :
    (returned text).toList = withReturns text.toList :=
  String.toList_ofList

/-- The text without its carriage returns. -/
def withoutReturns (text : String) : String :=
  String.ofList (text.toList.filter (· != '\r'))

@[simp] theorem toList_withoutReturns (text : String) :
    (withoutReturns text).toList = text.toList.filter (· != '\r') :=
  String.toList_ofList

theorem filter_return_eq_self (chars : List Char) :
    chars.filter (· != '\r') = chars ↔ '\r' ∉ chars := by
  rw [List.filter_eq_self]
  constructor
  · intro kept listed
    cases kept '\r' listed
  · intro noReturn char listed
    rw [bne_iff_ne]
    rintro rfl
    exact noReturn listed

theorem withoutReturns_eq_self (text : String) :
    withoutReturns text = text ↔ '\r' ∉ text.toList := by
  rw [← String.toList_inj, toList_withoutReturns, filter_return_eq_self]

namespace Position

/-- Positions that are reported alike stay so, when the one passes a source and the other
passes it with its returns. -/
theorem line_column_after_withReturns {first second : Position} (line : second.line = first.line)
    (column : second.column = first.column) (chars : List Char) :
    (second.after (withReturns chars)).line = (first.after chars).line ∧
      (second.after (withReturns chars)).column = (first.after chars).column := by
  induction chars generalizing first second with
  | nil => exact ⟨line, column⟩
  | cons char rest inductionHypothesis =>
    by_cases lineFeed : char = '\n'
    · -- a line feed sets the column back, so the return in front of it is forgotten
      subst lineFeed
      exact inductionHypothesis (congrArg (· + 1) line) rfl
    · rw [withReturns_cons lineFeed, after_cons, after_cons]
      apply inductionHypothesis
      · simp only [step, if_neg lineFeed, line]
      · simp only [step, if_neg lineFeed, column]

theorem location_after_withReturns (chars : List Char) :
    (start.after (withReturns chars)).location = (start.after chars).location := by
  rcases @line_column_after_withReturns start start rfl rfl chars with ⟨line, column⟩
  rw [location, line, column, location]

end Position
end Source
end Ritual
