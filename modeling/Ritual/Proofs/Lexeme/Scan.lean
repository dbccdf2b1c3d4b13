import Mathlib.Data.List.Find
import Ritual.Proofs.Lexeme.Grammar

namespace Ritual
namespace Lexeme

/-!
# The scanner finds what the grammar allows

Each scanner is computed on the forms of the grammar, which gives the one
direction: what stands before some characters is what `scan` finds there.  The
other direction needs no second look at the scanners.  Every character that is
no blank begins some lexeme of the grammar, and by the first direction that
lexeme is the one found.
-/

/-! ## Literals -/

theorem literal_closing (closing : Char) (rest : List Char) :
    literal closing (closing :: rest) = ([closing], []) := by
  cases rest <;> simp [literal]

theorem literal_plain {closing char : Char} (inside : char ≠ closing) (unescaped : char ≠ '\\')
    (rest : List Char) :
    literal closing (char :: rest) =
      (char :: (literal closing rest).1, char :: (literal closing rest).2) := by
  cases rest <;> simp [literal, inside, unescaped]

theorem literal_escaped {closing : Char} (ordinary : closing ≠ '\\') (char : Char)
    (rest : List Char) :
    literal closing ('\\' :: char :: rest) =
      ('\\' :: char :: (literal closing rest).1, unescape char :: (literal closing rest).2) := by
  simp [literal, ordinary.symm]

theorem literal_backslash (closing : Char) : literal closing ['\\'] = (['\\'], []) := by
  simp [literal]

/-- A literal is read through its body, and then as what follows the body. -/
theorem LiteralBody.literal_append {closing : Char} {raw value : List Char}
    (body : LiteralBody closing raw value) (ordinary : closing ≠ '\\') (rest : List Char) :
    literal closing (raw ++ rest) =
      (raw ++ (literal closing rest).1, value ++ (literal closing rest).2) := by
  induction body with
  | nil => rfl
  | plain inside unescaped _ inductionHypothesis =>
    rw [List.cons_append, literal_plain inside unescaped, inductionHypothesis]
    rfl
  | escaped _ inductionHypothesis =>
    rw [List.cons_append, List.cons_append, literal_escaped ordinary, inductionHypothesis]
    rfl

/-- What follows an opening quote is a body and the closing quote, or a body up
to the end of the source, which may lie behind a backslash. -/
theorem exists_literalBody (closing : Char) (chars : List Char) :
    ∃ raw value, LiteralBody closing raw value ∧
      ((∃ after, chars = raw ++ closing :: after) ∨ chars = raw ∨ chars = raw ++ ['\\']) := by
  match chars with
  | [] => exact ⟨[], [], .nil, Or.inr (Or.inl rfl)⟩
  | char :: rest =>
    by_cases closes : char = closing
    · subst closes
      exact ⟨[], [], .nil, Or.inl ⟨rest, rfl⟩⟩
    · by_cases escapes : char = '\\'
      · subst escapes
        match rest with
        | [] => exact ⟨[], [], .nil, Or.inr (Or.inr rfl)⟩
        | next :: others =>
          rcases exists_literalBody closing others with ⟨raw, value, body, ended⟩
          refine ⟨'\\' :: next :: raw, unescape next :: value, .escaped body, ?_⟩
          rcases ended with ⟨after, rfl⟩ | rfl | rfl
          · exact Or.inl ⟨after, rfl⟩
          · exact Or.inr (Or.inl rfl)
          · exact Or.inr (Or.inr rfl)
      · rcases exists_literalBody closing rest with ⟨raw, value, body, ended⟩
        refine ⟨char :: raw, char :: value, .plain closes escapes body, ?_⟩
        rcases ended with ⟨after, rfl⟩ | rfl | rfl
        · exact Or.inl ⟨after, rfl⟩
        · exact Or.inr (Or.inl rfl)
        · exact Or.inr (Or.inr rfl)
termination_by chars.length

/-! ## Numbers -/

theorem numberRun_true (chars : List Char) :
    numberRun true chars = chars.takeWhile Text.isNumeric := by
  have noNumber : Text.isNumeric '.' = false := by decide
  induction chars with
  | nil => rfl
  | cons char rest inductionHypothesis =>
    by_cases point : char = '.'
    · subst point
      simp [numberRun, noNumber]
    · by_cases numeric : Text.isNumeric char = true
      · simp [numberRun, point, numeric, inductionHypothesis]
      · simp [numberRun, point, numeric]

theorem numberRun_append {digits : List Char}
    (numeric : ∀ char ∈ digits, Text.isNumeric char = true) (rest : List Char) :
    numberRun false (digits ++ rest) = digits ++ numberRun false rest := by
  have noNumber : Text.isNumeric '.' = false := by decide
  induction digits with
  | nil => rfl
  | cons char others inductionHypothesis =>
    have first := numeric char List.mem_cons_self
    have point : char ≠ '.' := by
      rintro rfl
      rw [noNumber] at first
      cases first
    rw [List.cons_append, numberRun, if_neg point, if_pos first,
      inductionHypothesis fun other listed => numeric other (List.mem_cons_of_mem _ listed)]
    rfl

theorem numberRun_of_stops {after : List Char} (stops : Stops Text.isNumeric after)
    (noPoint : after.head? ≠ some '.') : numberRun false after = [] := by
  cases after with
  | nil => rfl
  | cons char rest =>
    have point : char ≠ '.' := fun same => noPoint (congrArg some same)
    rw [numberRun, if_neg point, if_neg (by simp [stops_cons.mp stops])]

/-! ## Comments -/

theorem restOfLine_append {text after : List Char}
    (oneLine : ∀ char ∈ text, (char != '\n') = true) (stops : Stops (· != '\n') after) :
    restOfLine (text ++ after) = text :=
  takeWhile_of_stops oneLine stops

theorem isPrefixOf_restOfLine {sigil : List Char} (oneLine : '\n' ∉ sigil) (chars : List Char) :
    sigil.isPrefixOf (restOfLine chars) = sigil.isPrefixOf chars := by
  induction sigil generalizing chars with
  | nil => simp
  | cons first rest inductionHypothesis =>
    have different : first ≠ '\n' := fun same => oneLine (by simp [same])
    have later : '\n' ∉ rest := fun listed => oneLine (List.mem_cons_of_mem _ listed)
    cases chars with
    | nil => rfl
    | cons char others =>
      by_cases lineFeed : char = '\n'
      · subst lineFeed
        simp [restOfLine, List.isPrefixOf, different]
      · have unfolded : restOfLine (char :: others) = char :: restOfLine others := by
          simp [restOfLine, lineFeed]
        rw [unfolded, List.isPrefixOf, List.isPrefixOf, inductionHypothesis later]

theorem commentKind_restOfLine (chars : List Char) :
    commentKind (restOfLine chars) = commentKind chars := by
  have oneLine : ∀ sigil ∈ sigils, '\n' ∉ sigil.1 := by decide
  have same : sigils.find? (fun sigil => sigil.1.isPrefixOf (restOfLine chars)) =
      sigils.find? (fun sigil => sigil.1.isPrefixOf chars) := by
    apply List.find?_congr
    intro sigil listed
    exact isPrefixOf_restOfLine (oneLine sigil listed) chars
  simp only [commentKind, same]

/-! ## Words and tags -/

theorem throughBracket_closed {attributes : List Char}
    (inside : ∀ char ∈ attributes, char ≠ '\n' ∧ char ≠ ']') (after : List Char) :
    throughBracket (attributes ++ ']' :: after) = attributes ++ [']'] := by
  induction attributes with
  | nil => simp [throughBracket]
  | cons char rest inductionHypothesis =>
    have first := inside char List.mem_cons_self
    rw [List.cons_append, throughBracket, if_neg first.1, if_neg first.2,
      inductionHypothesis fun other listed => inside other (List.mem_cons_of_mem _ listed)]
    rfl

theorem throughBracket_open {attributes after : List Char}
    (inside : ∀ char ∈ attributes, char ≠ '\n' ∧ char ≠ ']') (stops : Stops (· != '\n') after) :
    throughBracket (attributes ++ after) = attributes := by
  induction attributes with
  | nil =>
    cases after with
    | nil => rfl
    | cons char rest =>
      have lineFeed : char = '\n' := by simpa using stops_cons.mp stops
      simp [throughBracket, lineFeed]
  | cons char rest inductionHypothesis =>
    have first := inside char List.mem_cons_self
    rw [List.cons_append, throughBracket, if_neg first.1, if_neg first.2,
      inductionHypothesis fun other listed => inside other (List.mem_cons_of_mem _ listed)]

theorem wordOrTag_language {word : List Char} (tag : TagWord.ofName? word = some .language)
    (rest : List Char) :
    wordOrTag word ('[' :: rest) =
      verbatim .languageParam (word ++ '[' :: throughBracket rest) := by
  simp only [wordOrTag, tag]

theorem wordOrTag_web {word : List Char} (tag : TagWord.ofName? word = some .web)
    (rest : List Char) :
    wordOrTag word (':' :: ':' :: rest) =
      verbatim .webParam (word ++ ':' :: ':' :: rest.takeWhile isSelectorChar) := by
  simp only [wordOrTag, tag]

theorem wordOrTag_quantum {word : List Char} (tag : TagWord.ofName? word = some .quantum)
    (rest : List Char) :
    wordOrTag word (':' :: ':' :: rest) =
      verbatim .quantumParam (word ++ ':' :: ':' :: restOfLine rest) := by
  simp only [wordOrTag, tag]

theorem wordOrTag_code {word : List Char} (tag : TagWord.ofName? word = some .code)
    (rest : List Char) :
    wordOrTag word (':' :: ':' :: rest) = verbatim .languageParam (word ++ [':', ':']) := by
  simp only [wordOrTag, tag]

theorem wordOrTag_identifier {word after : List Char}
    (unmarked : ∀ tag, TagWord.ofName? word = some tag → ¬tag.marker <+: after) :
    wordOrTag word after = verbatim .identifier word := by
  unfold wordOrTag
  split
  · rename_i tail named
    exact absurd ⟨tail, rfl⟩ (unmarked .language named)
  · rename_i tail named
    exact absurd ⟨tail, rfl⟩ (unmarked .web named)
  · rename_i tail named
    exact absurd ⟨tail, rfl⟩ (unmarked .quantum named)
  · rename_i tail named
    exact absurd ⟨tail, rfl⟩ (unmarked .code named)
  · rfl

/-! ## The choice of a scanner -/

/-- The characters for which the scanner has a rule of their own. -/
def dispatched : List Char :=
  ['\n', ':', '-', '\x7b', '\x7d', '"', '\'', '/']

theorem scan_of_not_dispatched {char : Char} (ordinary : char ∉ dispatched) (rest : List Char) :
    scan char rest =
      if Text.isNumeric char then verbatim .number (numberRun false (char :: rest))
      else if Text.isAlphabetic char || char == '_' then
        wordOrTag ((char :: rest).takeWhile isNameChar) ((char :: rest).dropWhile isNameChar)
      else verbatim .unknown [char] := by
  simp only [dispatched, List.mem_cons, List.not_mem_nil, or_false, not_or] at ordinary
  unfold scan
  split <;> simp_all

theorem visible_of_property {property : Char → Bool} {char : Char}
    (noBlank : [' ', '\t', '\r'].all (fun blank => !property blank) = true)
    (has : property char = true) : isBlank char = false := by
  simp only [List.all_cons, List.all_nil, Bool.and_true, Bool.and_eq_true,
    Bool.not_eq_true'] at noBlank
  simp only [isBlank, Bool.or_eq_false_iff, beq_eq_false_iff_ne]
  refine ⟨⟨?_, ?_⟩, ?_⟩
  · rintro rfl
    simp [noBlank.1] at has
  · rintro rfl
    simp [noBlank.2.1] at has
  · rintro rfl
    simp [noBlank.2.2] at has

theorem not_dispatched_of_numeric {char : Char} (numeric : Text.isNumeric char = true) :
    char ∉ dispatched := by
  have noNumbers : (dispatched.all fun other => !Text.isNumeric other) = true := by decide
  intro listed
  have noNumber := List.all_eq_true.mp noNumbers char listed
  rw [numeric] at noNumber
  cases noNumber

theorem not_dispatched_of_startsWord {char : Char} (starts : startsWord char = true) :
    char ∉ dispatched := by
  have noWords : (dispatched.all fun other => !startsWord other) = true := by decide
  intro listed
  have noWord := List.all_eq_true.mp noWords char listed
  rw [starts] at noWord
  cases noWord

theorem scan_numeric {char : Char} (numeric : Text.isNumeric char = true) (rest : List Char) :
    scan char rest = verbatim .number (numberRun false (char :: rest)) := by
  rw [scan_of_not_dispatched (not_dispatched_of_numeric numeric), if_pos numeric]

theorem IsWord.scan_eq {word : List Char} (isWord : IsWord word) (after : List Char)
    (stops : Stops isNameChar after) :
    ∃ char rest, word ++ after = char :: rest ∧ isBlank char = false ∧
      scan char rest = wordOrTag word after := by
  rcases isWord.starts with ⟨first, others, rfl, starts⟩
  have kinds := starts
  simp only [startsWord, Bool.and_eq_true, Bool.not_eq_true'] at kinds
  refine ⟨first, others ++ after, rfl, visible_of_property (by decide) starts, ?_⟩
  rw [scan_of_not_dispatched (not_dispatched_of_startsWord starts), if_neg (by simp [kinds.1]),
    if_pos kinds.2]
  have run := takeWhile_of_stops isWord.named stops
  have remaining := dropWhile_of_stops isWord.named stops
  rw [List.cons_append] at run remaining
  rw [run, remaining]

/-- Before a character of no name the scanner reads a whole word. -/
theorem IsWord.scan_before {word : List Char} (isWord : IsWord word) {marker : Char}
    (noName : isNameChar marker = false) (rest : List Char) {lexeme : Lexeme}
    (read : wordOrTag word (marker :: rest) = lexeme) :
    ∃ char others, word ++ marker :: rest = char :: others ∧ isBlank char = false ∧
      scan char others = lexeme := by
  subst read
  apply isWord.scan_eq
  exact stops_cons.mpr noName

/-- Digits are read as one number with what continues them. -/
theorem scan_digits {digits : List Char} (nonempty : digits ≠ [])
    (numeric : ∀ char ∈ digits, Text.isNumeric char = true) (after : List Char) :
    ∃ char rest, digits ++ after = char :: rest ∧ isBlank char = false ∧
      scan char rest = verbatim .number (digits ++ numberRun false after) := by
  rcases List.exists_cons_of_ne_nil nonempty with ⟨first, others, rfl⟩
  have starts := numeric first List.mem_cons_self
  refine ⟨first, others ++ after, rfl, visible_of_property (by decide) starts, ?_⟩
  rw [scan_numeric starts, ← List.cons_append, numberRun_append numeric]

theorem scan_comment {text after : List Char} (oneLine : ∀ char ∈ text, (char != '\n') = true)
    (stops : Stops (· != '\n') after) :
    scan '/' ('/' :: (text ++ after)) =
      verbatim (commentKind ('/' :: '/' :: text)) ('/' :: '/' :: text) := by
  have sameLine := commentKind_restOfLine ('/' :: '/' :: (text ++ after))
  have wholeLine : restOfLine ('/' :: '/' :: (text ++ after)) = '/' :: '/' :: text := by
    have read := restOfLine_append oneLine stops
    simp only [restOfLine] at read
    simp [restOfLine, read]
  rw [wholeLine] at sameLine
  change verbatim (commentKind ('/' :: '/' :: (text ++ after)))
    ('/' :: '/' :: restOfLine (text ++ after)) = _
  rw [restOfLine_append oneLine stops, sameLine]

/-- A character for which the scanner has no rule, or whose rule does not apply,
is unknown. -/
theorem scan_unknown {char : Char} {rest : List Char} (noSign : isSign char = false)
    (noNumber : Text.isNumeric char = false) (noWord : startsWord char = false)
    (noSchool : char = ':' → rest.head? ≠ some ':') (noArrow : char = '-' → rest.head? ≠ some '>')
    (noComment : char = '/' → rest.head? ≠ some '/') :
    scan char rest = verbatim .unknown [char] := by
  have noLetter : (Text.isAlphabetic char || char == '_') = false := by
    simpa [startsWord, noNumber] using noWord
  unfold scan
  split
  · cases noSign
  · exact absurd rfl (noSchool rfl)
  · exact absurd rfl (noArrow rfl)
  · cases noSign
  · cases noSign
  · cases noSign
  · cases noSign
  · cases noSign
  · exact absurd rfl (noComment rfl)
  · rw [if_neg (by simp [noNumber]), if_neg (by simp [noLetter])]

theorem scan_doubleQuote {rest : List Char} (noTriple : ¬['"', '"'] <+: rest) :
    scan '"' rest = stringLiteral '"' rest := by
  unfold scan
  split
  any_goals simp_all

theorem LiteralBody.head?_ne {closing : Char} {raw value : List Char}
    (body : LiteralBody closing raw value) (ordinary : closing ≠ '\\') :
    raw.head? ≠ some closing := by
  cases body with
  | nil => simp
  | plain inside _ _ => simpa using inside
  | escaped _ => simpa using ordinary.symm

theorem not_backslash_of_quoted {quote : Char} (quoted : quote = '"' ∨ quote = '\'') :
    quote ≠ '\\' := by
  rcases quoted with rfl | rfl <;> decide

theorem visible_of_quoted {quote : Char} (quoted : quote = '"' ∨ quote = '\'') :
    isBlank quote = false := by
  rcases quoted with rfl | rfl <;> decide

theorem scan_string {quote : Char} (quoted : quote = '"' ∨ quote = '\'') {rest : List Char}
    (noTriple : quote = '"' → ¬['"', '"'] <+: rest) :
    scan quote rest = stringLiteral quote rest := by
  rcases quoted with rfl | rfl
  · exact scan_doubleQuote (noTriple rfl)
  · rfl

/-- A literal whose body does not end in its opening quotes is read as one. -/
theorem LiteralBody.scan_eq {quote : Char} {raw value : List Char}
    (body : LiteralBody quote raw value) (quoted : quote = '"' ∨ quote = '\'') {rest : List Char}
    (noTriple : quote = '"' → raw = [] → ¬['"', '"'] <+: rest) :
    scan quote (raw ++ rest) =
      ⟨.string, quote :: (raw ++ (literal quote rest).1), value ++ (literal quote rest).2⟩ := by
  have ordinary := not_backslash_of_quoted quoted
  have single : quote = '"' → ¬['"', '"'] <+: raw ++ rest := by
    rintro rfl
    have head := body.head?_ne ordinary
    cases raw with
    | nil => exact noTriple rfl rfl
    | cons char others =>
      rintro ⟨tail, same⟩
      exact head (congrArg some (List.cons.inj same).1.symm)
  rw [scan_string quoted single, stringLiteral, body.literal_append ordinary rest]

/-! ## The two directions -/

/-- What stands before some characters is what the scanner finds there. -/
theorem Stands.scan_eq {lexeme : Lexeme} {after : List Char} (stands : Stands lexeme after) :
    ∃ char rest, lexeme.raw ++ after = char :: rest ∧ isBlank char = false ∧
      scan char rest = lexeme := by
  cases stands with
  | newline => exact ⟨'\n', after, rfl, by decide, rfl⟩
  | outputBinding => exact ⟨'-', '>' :: after, rfl, by decide, rfl⟩
  | dataBlockStart => exact ⟨'\x7b', after, rfl, by decide, rfl⟩
  | dataBlockEnd => exact ⟨'\x7d', after, rfl, by decide, rfl⟩
  | tripleQuote => exact ⟨'"', '"' :: '"' :: after, rfl, by decide, rfl⟩
  | @schoolInvocation school operation _ schoolNamed operationNamed stops =>
    refine ⟨':', ':' :: (school ++ ':' :: (operation ++ after)), by simp, by decide, ?_⟩
    have colon : Stops isNameChar (':' :: (operation ++ after)) := stops_cons.mpr (by decide)
    change invocation _ = _
    rw [invocation, takeWhile_of_stops schoolNamed colon, dropWhile_of_stops schoolNamed colon]
    simp only [takeWhile_of_stops operationNamed stops]
  | @loneSchool school _ schoolNamed stops noColon =>
    refine ⟨':', ':' :: (school ++ after), by simp, by decide, ?_⟩
    change invocation _ = _
    rw [invocation, takeWhile_of_stops schoolNamed stops, dropWhile_of_stops schoolNamed stops]
    split
    · exact absurd rfl noColon
    · rfl
  | @closedString quote raw value _ quoted body noTriple =>
    refine ⟨quote, raw ++ quote :: after, by simp, visible_of_quoted quoted, ?_⟩
    have single : quote = '"' → raw = [] → ¬['"', '"'] <+: quote :: after := by
      rintro rfl empty ⟨tail, same⟩
      cases same
      exact noTriple rfl empty rfl
    rw [body.scan_eq quoted single, literal_closing]
    simp
  | @openString quote raw value quoted body =>
    refine ⟨quote, raw ++ [], rfl, visible_of_quoted quoted, ?_⟩
    rw [body.scan_eq quoted (by simp)]
    simp [literal]
  | @brokenString quote raw value quoted body =>
    refine ⟨quote, raw ++ ['\\'], by simp, visible_of_quoted quoted, ?_⟩
    rw [body.scan_eq quoted (by simp), literal_backslash]
    simp
  | @comment text _ oneLine stops =>
    exact ⟨'/', '/' :: (text ++ after), rfl, by decide, scan_comment oneLine stops⟩
  | @wholeNumber digits _ nonempty numeric stops noPoint =>
    have read := scan_digits nonempty numeric after
    rw [numberRun_of_stops stops noPoint, List.append_nil] at read
    exact read
  | @pointNumber digits fraction _ nonempty numeric fractionNumeric stops =>
    have point : numberRun false ('.' :: (fraction ++ after)) = '.' :: fraction := by
      rw [numberRun, if_pos rfl, if_neg (by simp), numberRun_true,
        takeWhile_of_stops fractionNumeric stops]
    have read := scan_digits nonempty numeric ('.' :: (fraction ++ after))
    rw [point] at read
    simpa using read
  | @closedLanguage word attributes _ isWord tag inside =>
    have read := wordOrTag_language tag (attributes ++ ']' :: after)
    rw [throughBracket_closed inside] at read
    simpa using isWord.scan_before (by decide) _ read
  | @openLanguage word attributes _ isWord tag inside stops =>
    have read := wordOrTag_language tag (attributes ++ after)
    rw [throughBracket_open inside stops] at read
    simpa using isWord.scan_before (by decide) _ read
  | @web word selector _ isWord tag selects stops =>
    have read := wordOrTag_web tag (selector ++ after)
    rw [takeWhile_of_stops selects stops] at read
    simpa using isWord.scan_before (by decide) _ read
  | @quantum word text _ isWord tag oneLine stops =>
    have read := wordOrTag_quantum tag (text ++ after)
    rw [restOfLine_append oneLine stops] at read
    simpa using isWord.scan_before (by decide) _ read
  | @code word _ isWord tag =>
    have read := wordOrTag_code tag after
    simpa using isWord.scan_before (by decide) _ read
  | @identifier word _ isWord stops unmarked =>
    have read := isWord.scan_eq after stops
    rw [wordOrTag_identifier unmarked] at read
    exact read
  | @unknown char _ visible noSign noNumber noWord noSchool noArrow noComment =>
    exact ⟨char, after, rfl, visible,
      scan_unknown noSign noNumber noWord noSchool noArrow noComment⟩

theorem exists_stands_word {word after : List Char} (isWord : IsWord word)
    (stops : Stops isNameChar after) :
    ∃ lexeme remaining, word ++ after = lexeme.raw ++ remaining ∧ Stands lexeme remaining := by
  by_cases marked : ∃ tag, TagWord.ofName? word = some tag ∧ tag.marker <+: after
  · rcases marked with ⟨tag, named, rest, rfl⟩
    cases tag with
    | language =>
      rcases exists_run (fun char => char != '\n' && char != ']') rest with
        ⟨attributes, remaining, rfl, run, ends⟩
      have inside : ∀ char ∈ attributes, char ≠ '\n' ∧ char ≠ ']' := by
        intro char listed
        simpa using run char listed
      cases remaining with
      | nil =>
        have stands : Stands (verbatim .languageParam (word ++ '[' :: attributes)) [] :=
          .openLanguage isWord named inside (stops_nil _)
        exact ⟨_, [], by simp [TagWord.marker], stands⟩
      | cons char others =>
        by_cases closes : char = ']'
        · subst closes
          exact ⟨_, others, by simp [TagWord.marker], .closedLanguage isWord named inside⟩
        · have lineFeed : Stops (· != '\n') (char :: others) := by
            have ended := stops_cons.mp ends
            simpa [stops_cons, closes] using ended
          exact ⟨_, char :: others, by simp [TagWord.marker],
            .openLanguage isWord named inside lineFeed⟩
    | web =>
      rcases exists_run isSelectorChar rest with ⟨selector, remaining, rfl, selects, ends⟩
      exact ⟨_, remaining, by simp [TagWord.marker], .web isWord named selects ends⟩
    | quantum =>
      rcases exists_run (· != '\n') rest with ⟨text, remaining, rfl, oneLine, ends⟩
      exact ⟨_, remaining, by simp [TagWord.marker], .quantum isWord named oneLine ends⟩
    | code => exact ⟨_, rest, by simp [TagWord.marker], .code isWord named⟩
  · refine ⟨_, after, rfl, .identifier isWord stops ?_⟩
    intro tag named follows
    exact marked ⟨tag, named, follows⟩

theorem exists_stands_number {char : Char} (numeric : Text.isNumeric char = true)
    (rest : List Char) :
    ∃ lexeme remaining, char :: rest = lexeme.raw ++ remaining ∧ Stands lexeme remaining := by
  rcases exists_run Text.isNumeric rest with ⟨others, after, rfl, run, stops⟩
  have digits : ∀ other ∈ char :: others, Text.isNumeric other = true := by
    intro other listed
    rcases List.mem_cons.mp listed with rfl | later
    · exact numeric
    · exact run other later
  by_cases point : after.head? = some '.'
  · rcases List.head?_eq_some_iff.mp point with ⟨tail, rfl⟩
    rcases exists_run Text.isNumeric tail with ⟨fraction, remaining, rfl, fractionRun, ends⟩
    exact ⟨_, remaining, by simp, .pointNumber (by simp) digits fractionRun ends⟩
  · exact ⟨_, after, rfl, .wholeNumber (by simp) digits stops point⟩

theorem exists_stands_quote {quote : Char} (quoted : quote = '"' ∨ quote = '\'')
    (rest : List Char) :
    ∃ lexeme remaining, quote :: rest = lexeme.raw ++ remaining ∧ Stands lexeme remaining := by
  by_cases triple : quote = '"' ∧ ['"', '"'] <+: rest
  · rcases triple with ⟨rfl, remaining, rfl⟩
    exact ⟨_, remaining, rfl, .tripleQuote⟩
  · rcases exists_literalBody quote rest with ⟨raw, value, body, ended⟩
    rcases ended with ⟨after, rfl⟩ | rfl | rfl
    · refine ⟨_, after, by simp, .closedString quoted body ?_⟩
      rintro rfl rfl next
      rcases List.head?_eq_some_iff.mp next with ⟨tail, rfl⟩
      exact triple ⟨rfl, tail, rfl⟩
    · exact ⟨_, [], by simp, .openString quoted body⟩
    · exact ⟨_, [], by simp, .brokenString quoted body⟩

theorem exists_stands_colons (rest : List Char) :
    ∃ lexeme remaining, ':' :: ':' :: rest = lexeme.raw ++ remaining ∧ Stands lexeme remaining := by
  rcases exists_run isNameChar rest with ⟨school, after, rfl, schoolNamed, stops⟩
  by_cases colon : after.head? = some ':'
  · rcases List.head?_eq_some_iff.mp colon with ⟨tail, rfl⟩
    rcases exists_run isNameChar tail with ⟨operation, remaining, rfl, operationNamed, ends⟩
    exact ⟨_, remaining, by simp, .schoolInvocation schoolNamed operationNamed ends⟩
  · exact ⟨_, after, rfl, .loneSchool schoolNamed stops colon⟩

/-- Every character that is no blank begins a lexeme of the grammar. -/
theorem exists_stands {char : Char} (rest : List Char) (visible : isBlank char = false) :
    ∃ lexeme remaining, char :: rest = lexeme.raw ++ remaining ∧ Stands lexeme remaining := by
  by_cases numeric : Text.isNumeric char = true
  · exact exists_stands_number numeric rest
  by_cases starts : startsWord char = true
  · rcases exists_run isNameChar rest with ⟨others, after, rfl, run, stops⟩
    have named : ∀ other ∈ char :: others, isNameChar other = true := by
      intro other listed
      rcases List.mem_cons.mp listed with rfl | later
      · simp only [startsWord, Bool.and_eq_true, Bool.or_eq_true] at starts
        rcases starts.2 with letter | underscore
        · simp [isNameChar, letter]
        · simp [isNameChar, underscore]
      · exact run other later
    exact exists_stands_word ⟨⟨char, others, rfl, starts⟩, named⟩ stops
  by_cases sign : isSign char = true
  · simp only [isSign, Bool.or_eq_true, beq_iff_eq] at sign
    rcases sign with (((rfl | rfl) | rfl) | rfl) | rfl
    · exact ⟨_, rest, rfl, .newline⟩
    · exact ⟨_, rest, rfl, .dataBlockStart⟩
    · exact ⟨_, rest, rfl, .dataBlockEnd⟩
    · exact exists_stands_quote (Or.inl rfl) rest
    · exact exists_stands_quote (Or.inr rfl) rest
  by_cases school : char = ':' ∧ rest.head? = some ':'
  · rcases school with ⟨rfl, next⟩
    rcases List.head?_eq_some_iff.mp next with ⟨tail, rfl⟩
    exact exists_stands_colons tail
  by_cases arrow : char = '-' ∧ rest.head? = some '>'
  · rcases arrow with ⟨rfl, next⟩
    rcases List.head?_eq_some_iff.mp next with ⟨tail, rfl⟩
    exact ⟨_, tail, rfl, .outputBinding⟩
  by_cases comment : char = '/' ∧ rest.head? = some '/'
  · rcases comment with ⟨rfl, next⟩
    rcases List.head?_eq_some_iff.mp next with ⟨tail, rfl⟩
    rcases exists_run (· != '\n') tail with ⟨text, remaining, rfl, oneLine, ends⟩
    exact ⟨_, remaining, by simp, .comment oneLine ends⟩
  exact ⟨_, rest, rfl, .unknown visible (Bool.eq_false_iff.mpr sign)
    (Bool.eq_false_iff.mpr numeric) (Bool.eq_false_iff.mpr starts)
    (fun same next => school ⟨same, next⟩) (fun same next => arrow ⟨same, next⟩)
    (fun same next => comment ⟨same, next⟩)⟩

/-- At most one lexeme stands before what follows it. -/
theorem Stands.unique {first second : Lexeme} {firstAfter secondAfter : List Char}
    (left : Stands first firstAfter) (right : Stands second secondAfter)
    (same : first.raw ++ firstAfter = second.raw ++ secondAfter) : first = second := by
  rcases left.scan_eq with ⟨char, rest, parts, _, found⟩
  rcases right.scan_eq with ⟨other, others, otherParts, _, otherFound⟩
  rw [same, otherParts] at parts
  rcases List.cons.inj parts with ⟨rfl, rfl⟩
  exact found.symm.trans otherFound

end Lexeme
end Ritual
