import Ritual.Proofs.Lexeme.Grammar
import Ritual.Proofs.Text.Quotation
import Ritual.Token

namespace Ritual

/-!
# What the line of a token tells

The line that shows a token has four parts, and each of them tells where it ends: the name
of the kind at the first space, the quotation at its closing quote, the number of the line
at the colon, and the number of the column with the line.  So a token is read off its line
except for its span, whatever its text imitates.
-/

namespace TokenKind

/-- A kind is found by its name. -/
theorem ofName?_name (kind : TokenKind) : ofName? kind.name = some kind := by
  cases kind <;> decide

theorem name_inj {left right : TokenKind} : left.name = right.name ↔ left = right := by
  refine ⟨?_, congrArg name⟩
  intro same
  have found := congrArg ofName? same
  rw [ofName?_name, ofName?_name] at found
  exact Option.some.inj found

theorem space_not_mem_name (kind : TokenKind) : ' ' ∉ kind.name.toList := by
  cases kind <;> decide

theorem oneLine_name (kind : TokenKind) : Text.OneLine kind.name := by
  cases kind <;> decide

end TokenKind

/-! ## Numbers that end -/

namespace Text

/-- A number is read off its digits. -/
theorem eq_of_toString {left right : Nat} (same : toString left = toString right) :
    left = right := by
  rw [Nat.toString_eq_ofList_toDigits, Nat.toString_eq_ofList_toDigits,
    String.ofList_inj] at same
  have read := congrArg (fun digits => Nat.ofDigitChars 10 digits 0) same
  rw [Nat.ofDigitChars_ten_toDigits, Nat.ofDigitChars_ten_toDigits] at read
  exact read

/-- What begins with a number, and goes on with no digit, tells which number it is and what
stands behind. -/
theorem toList_toString_append_inj {left right : Nat} {leftRest rightRest : List Char}
    (leftStops : Lexeme.Stops Char.isDigit leftRest)
    (rightStops : Lexeme.Stops Char.isDigit rightRest)
    (same : (toString left).toList ++ leftRest = (toString right).toList ++ rightRest) :
    left = right ∧ leftRest = rightRest := by
  rcases Lexeme.append_inj_of_stops isDigit_of_mem_toString isDigit_of_mem_toString leftStops
    rightStops same with ⟨digits, rest⟩
  exact ⟨eq_of_toString (String.toList_inj.mp digits), rest⟩

end Text

namespace Token

/-! ## The parts of the line -/

/-- The characters that show a location. -/
def shownLocation (location : Source.Location) : List Char :=
  ' ' :: 'L' :: ((toString location.line.toNat).toList ++
    ':' :: 'C' :: (toString location.column.toNat).toList)

/-- What stands between the kind and the text: the rest of the column, and a space. -/
def padding (kind : TokenKind) : List Char :=
  List.replicate (kindWidth - kind.name.toList.length) ' ' ++ [' ']

theorem toList_display (token : Token) :
    token.display.toList = token.kind.name.toList ++ (padding token.kind ++
      ((Text.quote token.text).toList ++ shownLocation token.location)) := by
  simp [display, padding, shownLocation, List.rightpad]

theorem head?_padding (kind : TokenKind) : (padding kind).head? = some ' ' := by
  unfold padding
  cases kindWidth - kind.name.toList.length with
  | zero => rfl
  | succ count => rfl

/-- The name of a kind ends where the spaces begin. -/
theorem stops_padding_append (kind : TokenKind) (rest : List Char) :
    Lexeme.Stops (· != ' ') (padding kind ++ rest) := by
  intro char found
  rw [List.head?_append, head?_padding] at found
  obtain rfl := Option.some.inj found
  rfl

theorem shownLocation_inj {left right : Source.Location}
    (same : shownLocation left = shownLocation right) : left = right := by
  have colon : ∀ column : List Char, Lexeme.Stops Char.isDigit (':' :: 'C' :: column) :=
    fun column => Lexeme.stops_cons.mpr rfl
  have numbers := (List.cons.inj (List.cons.inj same).2).2
  rcases Text.toList_toString_append_inj (colon _) (colon _) numbers with ⟨line, behind⟩
  have digits := String.toList_inj.mp (List.cons.inj (List.cons.inj behind).2).2
  have column := Text.eq_of_toString digits
  rw [Source.Location.mk.injEq]
  exact ⟨UInt32.toNat_inj.mp line, UInt32.toNat_inj.mp column⟩

/-! ## Lines and tokens -/

/-- What a line shows of a token: everything but the span. -/
def shown (token : Token) : TokenKind × String × Source.Location :=
  (token.kind, token.text, token.location)

/-- Tokens with one line differ in their spans at most. -/
theorem display_inj {left right : Token} :
    left.display = right.display ↔ left.shown = right.shown := by
  refine ⟨?_, ?_⟩
  · intro same
    have chars := congrArg String.toList same
    rw [toList_display, toList_display] at chars
    rcases Lexeme.append_inj_of_stops (Lexeme.not_mem_iff_bne.mp left.kind.space_not_mem_name)
      (Lexeme.not_mem_iff_bne.mp right.kind.space_not_mem_name) (stops_padding_append _ _)
      (stops_padding_append _ _) chars with ⟨name, behindName⟩
    have kind := TokenKind.name_inj.mp (String.toList_inj.mp name)
    rw [kind] at behindName
    rcases Text.toList_quote_append_inj (List.append_cancel_left behindName) with
      ⟨text, behindText⟩
    rw [shown, shown, kind, text, shownLocation_inj behindText]
  · intro same
    rcases Prod.mk.inj same with ⟨kind, others⟩
    rcases Prod.mk.inj others with ⟨text, location⟩
    rw [display, display, kind, text, location]

/-- A token is shown on one line, whatever its text is. -/
theorem oneLine_display (token : Token) : Text.OneLine token.display := by
  have padded : Text.OneLine (String.ofList (token.kind.name.toList.rightpad kindWidth ' ')) := by
    rw [Text.OneLine, String.toList_ofList, List.rightpad, List.mem_append, List.mem_replicate]
    rintro (listed | ⟨_, impossible⟩)
    · exact token.kind.oneLine_name listed
    · exact absurd impossible (by decide)
  have space : Text.OneLine " " := by decide
  have line : Text.OneLine " L" := by decide
  have column : Text.OneLine ":C" := by decide
  simp only [display, Text.oneLine_append, Text.OneLine.natural, Text.oneLine_quote, padded,
    space, line, column, and_true]

end Token
end Ritual
