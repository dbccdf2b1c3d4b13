import Ritual.Invocation
import Ritual.Language
import Ritual.Proofs.Lexeme.LetterCase
import Ritual.Proofs.Token.Tiling

namespace Ritual

/-!
# Tokens up to the case of their letters

Sources that differ only in the case of ASCII letters have the same tokens at the same
places.  What a tag or an invocation names is then one name up to the case of letters,
and the same name in lower case.
-/

open Text

namespace Source
namespace Position

theorem step_toLower (position : Position) (char : Char) :
    position.step char.toLower = position.step char := by
  simp only [step, utf8Size_toLower, toLower_eq_iff (show '\n'.isAlpha = false by decide)]

theorem after_fold (position : Position) (chars : List Char) :
    position.after (fold chars) = position.after chars := by
  induction chars generalizing position with
  | nil => rfl
  | cons char rest inductionHypothesis =>
    rw [fold_cons, after_cons, after_cons, step_toLower, inductionHypothesis]

end Position
end Source

namespace Token

/-- The token without the case of its letters and without the value of a literal. -/
def outline (token : Token) : Token :=
  { token with
    text := if token.kind = .string then "" else String.ofList (fold token.text.toList) }

@[simp] theorem outline_kind (token : Token) : token.outline.kind = token.kind :=
  rfl

@[simp] theorem outline_location (token : Token) : token.outline.location = token.location :=
  rfl

@[simp] theorem outline_span (token : Token) : token.outline.span = token.span :=
  rfl

theorem outline_text {token : Token} (noString : token.kind ≠ .string) :
    token.outline.text = String.ofList (fold token.text.toList) :=
  if_neg noString

theorem outline_ofLexeme (position : Source.Position) {lexeme other : Lexeme}
    {after otherAfter : List Char} (stands : Lexeme.Stands lexeme after)
    (otherStands : Lexeme.Stands other otherAfter) (kind : other.kind = lexeme.kind)
    (raw : other.raw = fold lexeme.raw) :
    (ofLexeme position other).outline = (ofLexeme position lexeme).outline := by
  simp only [outline, ofLexeme, kind, raw, Source.Position.after_fold, String.toList_ofList]
  congr 1
  split
  · rfl
  · rename_i noString
    rw [otherStands.text_eq_raw (kind ▸ noString), stands.text_eq_raw noString, raw, fold_fold]

/-- Making the letters of a source small changes no outline of a token. -/
theorem outline_streamFrom (position : Source.Position) (chars : List Char) :
    (streamFrom position (fold chars)).map outline = (streamFrom position chars).map outline := by
  rcases Lexeme.exists_run Lexeme.isBlank chars with ⟨gap, after, spelled, blank, stops⟩
  have blankFold : Tile.Blank (fold gap) := Lexeme.forall_fold Lexeme.isBlank_toLower blank
  match after with
  | [] =>
    rw [spelled, List.append_nil, streamFrom_blanks _ blank, streamFrom_blanks _ blankFold,
      Source.Position.after_fold]
  | char :: rest =>
    rcases Lexeme.exists_stands rest (Lexeme.stops_cons.mp stops) with
      ⟨lexeme, remaining, parts, stands⟩
    have progress := List.length_pos_iff.mpr stands.raw_ne_nil
    have lengths := congrArg List.length parts
    have total := congrArg List.length spelled
    rcases stands.fold with ⟨other, folded, kind, raw⟩
    have later := outline_streamFrom ((position.after gap).after lexeme.raw) remaining
    rw [spelled, parts, fold_append, fold_append, ← raw, streamFrom_gap _ blankFold,
      streamFrom_gap _ blank, streamFrom_stands _ folded, streamFrom_stands _ stands,
      List.map_cons, List.map_cons, Source.Position.after_fold,
      outline_ofLexeme _ stands folded kind raw, raw, Source.Position.after_fold, later]
termination_by chars.length
decreasing_by
  simp only [List.length_append, List.length_cons] at lengths total
  omega

/-- Sources that differ in the case of letters only have the same outlines. -/
theorem outline_tokenize {first second : String}
    (same : fold first.toList = fold second.toList) :
    (tokenize first).map outline = (tokenize second).map outline := by
  rw [tokenize, tokenize, ← outline_streamFrom _ first.toList, same, outline_streamFrom]

end Token

/-! ## What a tag names -/

namespace Language

theorem beginsWith_fold (word chars : List Char) :
    beginsWith word (fold chars) = beginsWith word chars := by
  have letters : (fun char : Char => char.toLower.toUpper) = Char.toUpper := by
    funext char
    exact toUpper_toLower char
  rw [beginsWith, fold, ← List.map_take, List.map_map, Function.comp_def, letters, beginsWith]

theorem isQuote_toLower (char : Char) : isQuote char.toLower = isQuote char :=
  view_toLower (forall_of_all (by decide)) char

theorem attributeHere?_fold (chars : List Char) :
    attributeHere? (fold chars) = (attributeHere? chars).map fold := by
  unfold attributeHere? stripWord?
  rw [beginsWith_fold]
  cases beginsWith ['L', 'A', 'N', 'G'] chars with
  | false => rfl
  | true =>
    have afterName : (fold chars).drop 4 = fold (chars.drop 4) := List.map_drop.symm
    simp only [if_true, Option.bind_eq_bind, Option.bind_some, List.length_cons, List.length_nil,
      Nat.zero_add, Nat.reduceAdd, afterName, dropWhile_fold isWhiteSpace_toLower]
    cases (chars.drop 4).dropWhile isWhiteSpace with
    | nil => rfl
    | cons sign afterSign =>
      by_cases equals : sign = '='
      · subst equals
        have small : '='.toLower = '=' := by decide
        simp only [fold_cons, small, dropWhile_fold isWhiteSpace_toLower]
        cases afterSign.dropWhile isWhiteSpace with
        | nil => rfl
        | cons opening quoted =>
          simp only [fold_cons, takeWhile_fold isWordChar_toLower,
            dropWhile_fold isWordChar_toLower]
          cases quoted.dropWhile isWordChar with
          | nil => rfl
          | cons closing rest =>
            simp only [fold_cons, isQuote_toLower, isEmpty_fold]
            split <;> rfl
      · have other : sign.toLower ≠ '=' :=
          fun same => equals ((toLower_eq_iff (by decide) sign).mp same)
        rw [fold_cons]
        split
        · rename_i same
          exact absurd (List.cons.inj same).1 other
        · split
          · rename_i same
            exact absurd (List.cons.inj same).1 equals
          · rfl

theorem attribute?_fold (chars : List Char) :
    attribute? (fold chars) = (attribute? chars).map fold := by
  induction chars with
  | nil => rfl
  | cons char rest inductionHypothesis =>
    have here := attributeHere?_fold (char :: rest)
    rw [fold_cons] at here
    rw [fold_cons, attribute?, attribute?, here, inductionHypothesis]
    cases attributeHere? (char :: rest) <;> rfl

/-- The language that a tag names does not depend on the case of ASCII letters. -/
theorem ofTag?_fold (tag : String) :
    ofTag? (String.ofList (fold tag.toList)) = ofTag? tag := by
  simp only [ofTag?, String.toList_ofList, beginsWith_fold, attribute?_fold, Option.map_map,
    Function.comp_def, lowercase_fold]

end Language

/-! ## What an invocation names -/

namespace Invocation

theorem names?_of_unmarked {chars : List Char} (unmarked : ¬[':', ':'] <+: chars) :
    names? chars = none := by
  unfold names?
  split
  · exact absurd ⟨_, rfl⟩ unmarked
  · rfl

theorem names?_fold (chars : List Char) :
    names? (fold chars) = (names? chars).map fun names =>
      (String.ofList (fold names.1.toList), String.ofList (fold names.2.toList)) := by
  have noLetters : ∀ mark ∈ [':', ':'], mark.isAlpha = false := by simp
  by_cases marked : [':', ':'] <+: chars
  · rcases marked with ⟨rest, rfl⟩
    have small : ':'.toLower = ':' := by decide
    have school : (fold rest).takeWhile (· != ':') = fold (rest.takeWhile (· != ':')) :=
      takeWhile_fold (bne_toLower (by decide)) rest
    have operation : (fold rest).dropWhile (· != ':') = fold (rest.dropWhile (· != ':')) :=
      dropWhile_fold (bne_toLower (by decide)) rest
    simp only [List.cons_append, List.nil_append, fold_cons, small, names?, school, operation]
    cases rest.dropWhile (· != ':') with
    | nil => rfl
    | cons colon operation => simp
  · rw [names?_of_unmarked marked, names?_of_unmarked, Option.map_none]
    exact fun begins => marked ((Lexeme.prefix_fold_iff noLetters chars).mp begins)

end Invocation
end Ritual
