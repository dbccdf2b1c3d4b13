import Ritual.Proofs.Text.OneLine
import Ritual.Text.Quoted

namespace Ritual
namespace Text

/-!
# Quotations are read back

A quotation is read back character by character.  A backslash tells that the character is
not shown as it is, and what stands behind it tells which one it is: a letter, or a code
point, whose digits end with their brace.  So no quoted character is the beginning of
another one, and since a quote within is never shown without its backslash, a quotation
ends at one place only.  Hence texts with one quotation are the same, whatever they hold.
-/

/-! ## Hexadecimal digits -/

/-- The value of a digit, in lower case. -/
def hexValue (digit : Char) : Nat :=
  if digit.isDigit then digit.toNat - '0'.toNat else digit.toNat - 'a'.toNat + 10

/-- The number that hexadecimal digits write. -/
def ofHexDigits (digits : List Char) : Nat :=
  digits.foldl (fun value digit => 16 * value + hexValue digit) 0

theorem ofHexDigits_concat (digits : List Char) (digit : Char) :
    ofHexDigits (digits ++ [digit]) = 16 * ofHexDigits digits + hexValue digit := by
  rw [ofHexDigits, List.foldl_concat]
  rfl

/-- A digit is read as the value that it is written for. -/
theorem hexValue_digitChar : ∀ value < 16, hexValue value.digitChar = value := by
  decide

/-- The digits of a number write it. -/
theorem ofHexDigits_toDigits (number : Nat) : ofHexDigits (Nat.toDigits 16 number) = number := by
  induction number using Nat.strongRecOn with
  | ind number inductionHypothesis =>
    rw [Nat.toDigits_eq_if (by decide)]
    by_cases small : number < 16
    · rw [if_pos small, ← List.nil_append [number.digitChar], ofHexDigits_concat,
        hexValue_digitChar number small]
      exact Nat.zero_add number
    · have less : number / 16 < number := Nat.div_lt_self (by omega) (by decide)
      rw [if_neg small, ofHexDigits_concat, inductionHypothesis _ less,
        hexValue_digitChar _ (Nat.mod_lt _ (by decide)), Nat.div_add_mod]

theorem exists_value_of_mem_toDigits {number : Nat} {digit : Char}
    (listed : digit ∈ Nat.toDigits 16 number) : ∃ value < 16, digit = value.digitChar := by
  induction number using Nat.strongRecOn with
  | ind number inductionHypothesis =>
    rw [Nat.toDigits_eq_if (by decide)] at listed
    by_cases small : number < 16
    · rw [if_pos small] at listed
      exact ⟨number, small, List.mem_singleton.mp listed⟩
    · have less : number / 16 < number := Nat.div_lt_self (by omega) (by decide)
      rw [if_neg small] at listed
      rcases List.mem_append.mp listed with earlier | last
      · exact inductionHypothesis _ less earlier
      · exact ⟨number % 16, Nat.mod_lt _ (by decide), List.mem_singleton.mp last⟩

/-- A character that is no hexadecimal digit is in no number. -/
theorem not_mem_toDigits {char : Char} (other : ∀ value < 16, char ≠ Nat.digitChar value)
    (number : Nat) : char ∉ Nat.toDigits 16 number := by
  intro listed
  rcases exists_value_of_mem_toDigits listed with ⟨value, small, same⟩
  exact other value small same

/-! ## Quoted characters -/

/-- The character that a letter behind a backslash stands for. -/
def unquoteLetter : Char → Char
  | '0' => '\x00'
  | 't' => '\t'
  | 'r' => '\r'
  | 'n' => '\n'
  | char => char

/-- The first character of what a quotation shows, and what follows it there. -/
def unquoteChar : List Char → Option (Char × List Char)
  | [] => none
  | '\\' :: 'u' :: '{' :: rest =>
    some (Char.ofNat (ofHexDigits (rest.takeWhile (· != '}'))),
      (rest.dropWhile (· != '}')).tail)
  | '\\' :: letter :: rest => some (unquoteLetter letter, rest)
  | char :: rest => some (char, rest)

theorem unquoteChar_codePointEscape (char : Char) (rest : List Char) :
    unquoteChar (codePointEscape char ++ rest) = some (char, rest) := by
  have ended : ∀ digit ∈ Nat.toDigits 16 char.toNat, (digit != '}') = true := by
    intro digit listed
    rw [bne_iff_ne]
    rintro rfl
    exact not_mem_toDigits (by decide) _ listed
  rw [codePointEscape, List.append_assoc, List.append_assoc]
  simp only [List.cons_append, List.nil_append, unquoteChar]
  rw [List.takeWhile_append_of_pos ended, List.dropWhile_append_of_pos ended]
  simp [ofHexDigits_toDigits]

theorem unquoteChar_self {char : Char} (noBackslash : char ≠ '\\') (rest : List Char) :
    unquoteChar (char :: rest) = some (char, rest) := by
  unfold unquoteChar
  split <;> simp_all

/-- A quoted character is read back, and what stands behind it is left. -/
theorem unquoteChar_quoteChar (char : Char) (rest : List Char) :
    unquoteChar (quoteChar char ++ rest) = some (char, rest) := by
  unfold quoteChar
  split_ifs with zero tab carriageReturn lineFeed isQuote isBackslash shown
  · subst zero; rfl
  · subst tab; rfl
  · subst carriageReturn; rfl
  · subst lineFeed; rfl
  · subst isQuote; rfl
  · subst isBackslash; rfl
  · exact unquoteChar_self isBackslash rest
  · exact unquoteChar_codePointEscape char rest

/-- No quoted character is the beginning of another one. -/
theorem quoteChar_append_inj {left right : Char} {leftRest rightRest : List Char}
    (same : quoteChar left ++ leftRest = quoteChar right ++ rightRest) :
    left = right ∧ leftRest = rightRest := by
  have read := congrArg unquoteChar same
  rw [unquoteChar_quoteChar, unquoteChar_quoteChar] at read
  exact Prod.mk.inj (Option.some.inj read)

theorem quoteChar_quote : quoteChar '"' = ['\\', '"'] := by
  decide

/-- No quoted character begins as a quotation ends. -/
theorem quoteChar_append_ne (char : Char) (rest closed : List Char) :
    quoteChar char ++ rest ≠ '"' :: closed := by
  intro same
  have read := congrArg unquoteChar same
  rw [unquoteChar_quoteChar, unquoteChar_self (by decide)] at read
  rcases Prod.mk.inj (Option.some.inj read) with ⟨rfl, _⟩
  rw [quoteChar_quote] at same
  exact absurd (List.cons.inj same).1 (by decide)

/-! ## Quotations -/

/-- Quoted characters up to the closing quote tell which they are and where it stands. -/
theorem flatMap_quoteChar_append_inj {left right leftRest rightRest : List Char}
    (same : left.flatMap quoteChar ++ '"' :: leftRest =
      right.flatMap quoteChar ++ '"' :: rightRest) : left = right ∧ leftRest = rightRest := by
  induction left generalizing right with
  | nil =>
    cases right with
    | nil => exact ⟨rfl, (List.cons.inj same).2⟩
    | cons char others =>
      rw [List.flatMap_cons, List.append_assoc] at same
      exact absurd same.symm (quoteChar_append_ne _ _ _)
  | cons char others inductionHypothesis =>
    rw [List.flatMap_cons, List.append_assoc] at same
    cases right with
    | nil => exact absurd same (quoteChar_append_ne _ _ _)
    | cons other further =>
      rw [List.flatMap_cons, List.append_assoc] at same
      rcases quoteChar_append_inj same with ⟨rfl, behind⟩
      rcases inductionHypothesis behind with ⟨rfl, rest⟩
      exact ⟨rfl, rest⟩

/-- What begins with a quotation tells which text is quoted and what stands behind. -/
theorem toList_quote_append_inj {left right : String} {leftRest rightRest : List Char}
    (same : (quote left).toList ++ leftRest = (quote right).toList ++ rightRest) :
    left = right ∧ leftRest = rightRest := by
  rw [toList_quote, toList_quote] at same
  simp only [List.cons_append, List.append_assoc, List.nil_append] at same
  rcases flatMap_quoteChar_append_inj (List.cons.inj same).2 with ⟨chars, rest⟩
  exact ⟨String.toList_inj.mp chars, rest⟩

/-! ## No line feed -/

theorem lineFeed_not_mem_quoteChar (char : Char) : '\n' ∉ quoteChar char := by
  unfold quoteChar
  split_ifs with zero tab carriageReturn lineFeed isQuote isBackslash shown
  · decide
  · decide
  · decide
  · decide
  · decide
  · decide
  · rw [List.mem_singleton]
    exact Ne.symm lineFeed
  · rw [codePointEscape, List.mem_append, List.mem_append]
    rintro ((opening | digit) | closing)
    · exact absurd opening (by decide)
    · exact not_mem_toDigits (by decide) _ digit
    · exact absurd closing (by decide)

/-- A quotation has no line feed, whatever it holds. -/
theorem oneLine_quote (text : String) : OneLine (quote text) := by
  rw [OneLine, toList_quote, List.mem_append, List.mem_append]
  rintro ((opening | within) | closing)
  · exact absurd opening (by decide)
  · rcases List.mem_flatMap.mp within with ⟨char, _, listed⟩
    exact lineFeed_not_mem_quoteChar char listed
  · exact absurd closing (by decide)

end Text
end Ritual
