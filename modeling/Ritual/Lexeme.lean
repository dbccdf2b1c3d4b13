import Ritual.Text.Alphabetic
import Ritual.Text.Numeric
import Ritual.Token

namespace Ritual

/-!
# Lexemes

A lexeme is what stands at the start of a token: the kind, the characters that
the token covers and the text that they denote.  `scan` finds the lexeme at a
character that is no blank.  It is total: text that is nothing else is an
unknown lexeme, and whether a ritual is valid is judged elsewhere.  Every
lexeme covers a non-empty beginning of what is scanned, which is all that a
token stream needs.
-/

/-- The kind, the covered characters and the text of one token. -/
structure Lexeme where
  kind : TokenKind
  raw : List Char
  text : List Char
deriving DecidableEq, Repr

namespace Lexeme

/-- A lexeme whose text is exactly what it covers. -/
def verbatim (kind : TokenKind) (raw : List Char) : Lexeme :=
  ⟨kind, raw, raw⟩

@[simp] theorem verbatim_raw (kind : TokenKind) (raw : List Char) :
    (verbatim kind raw).raw = raw := rfl

@[simp] theorem verbatim_text (kind : TokenKind) (raw : List Char) :
    (verbatim kind raw).text = raw := rfl

@[simp] theorem verbatim_kind (kind : TokenKind) (raw : List Char) :
    (verbatim kind raw).kind = kind := rfl

/-! ## Names and invocations -/

/-- Letters, numbers, the underscore and the hyphen make up names. -/
def isNameChar (char : Char) : Bool :=
  Text.isAlphabetic char || Text.isNumeric char || char == '_' || char == '-'

/-- The characters of an invocation after its two colons: a school, and behind
a third colon an operation.  Either name may be empty.  Without the third colon
the text is unknown. -/
def invocation (rest : List Char) : Lexeme :=
  let school := rest.takeWhile isNameChar
  match rest.dropWhile isNameChar with
  | ':' :: tail =>
    verbatim .schoolInvocation (':' :: ':' :: (school ++ ':' :: tail.takeWhile isNameChar))
  | _ => verbatim .unknown (':' :: ':' :: school)

/-! ## String literals -/

/-- The value of an escaped character. -/
def unescape : Char → Char
  | 'n' => '\n'
  | 't' => '\t'
  | char => char

/-- The characters of a literal after its opening quote, and the value that
they denote.  The literal ends with the next quote of its kind that no
backslash escapes, or with the source; a backslash at the very end denotes
nothing. -/
def literal (closing : Char) : List Char → List Char × List Char
  | [] => ([], [])
  | [char] =>
    if char = closing ∨ char = '\\' then ([char], []) else ([char], [char])
  | char :: next :: rest =>
    if char = closing then ([char], [])
    else if char = '\\' then
      let (raw, value) := literal closing rest
      (char :: next :: raw, unescape next :: value)
    else
      let (raw, value) := literal closing (next :: rest)
      (char :: raw, char :: value)

/-- A string literal with its opening quote. -/
def stringLiteral (quote : Char) (rest : List Char) : Lexeme :=
  let (raw, value) := literal quote rest
  ⟨.string, quote :: raw, value⟩

/-! ## Numbers -/

/-- The longest run of numeric characters with at most one point, or with no
point once one was seen. -/
def numberRun (pointSeen : Bool) : List Char → List Char
  | [] => []
  | char :: rest =>
    if char = '.' then if pointSeen then [] else char :: numberRun true rest
    else if Text.isNumeric char then char :: numberRun pointSeen rest
    else []

/-! ## Comments -/

/-- The sigils that name a kind of comment, a longer one before its own
beginning. -/
def sigils : List (List Char × TokenKind) :=
  [(['/', '/', '!', '?'], .commentGuardian), (['/', '/', '<', '3'], .commentLove),
    (['/', '/', '/'], .commentDoc), (['/', '/', '!'], .commentPrereq),
    (['/', '/', '~'], .commentDrift), (['/', '/', '*'], .commentWild)]

/-- The kind of a comment, given with its slashes. -/
def commentKind (chars : List Char) : TokenKind :=
  match sigils.find? fun sigil => sigil.1.isPrefixOf chars with
  | some sigil => sigil.2
  | none => .commentStandard

/-- The characters before the next line feed. -/
def restOfLine (chars : List Char) : List Char :=
  chars.takeWhile (· != '\n')

/-! ## Words and tags -/

/-- The words that open a tag if their marker follows. -/
inductive TagWord where
  /-- The word `LANGUAGE` before an opening bracket. -/
  | language
  /-- The word `WEB` before two colons. -/
  | web
  /-- The word `QUANTUM` before two colons. -/
  | quantum
  /-- The words `PYTHON`, `JAVASCRIPT` and `JS` before two colons. -/
  | code
deriving DecidableEq, Repr

/-- The tag word that a name is, in any ASCII case. -/
def TagWord.ofName? (word : List Char) : Option TagWord :=
  match String.ofList (word.map Char.toUpper) with
  | "LANGUAGE" => some language
  | "WEB" => some web
  | "QUANTUM" => some quantum
  | "PYTHON" => some code
  | "JAVASCRIPT" => some code
  | "JS" => some code
  | _ => none

/-- The characters up to and including the first closing bracket, or up to the
end of the line if it holds none. -/
def throughBracket : List Char → List Char
  | [] => []
  | char :: rest =>
    if char = '\n' then []
    else if char = ']' then [char]
    else char :: throughBracket rest

/-- A selector ends before a line feed, a space or a colon. -/
def isSelectorChar (char : Char) : Bool :=
  char != '\n' && char != ' ' && char != ':'

/-- The lexeme that begins with the given word: a tag if the word is a tag word
and its marker follows, and an identifier otherwise. -/
def wordOrTag (word after : List Char) : Lexeme :=
  match TagWord.ofName? word, after with
  | some .language, '[' :: tail =>
    verbatim .languageParam (word ++ '[' :: throughBracket tail)
  | some .web, ':' :: ':' :: tail =>
    verbatim .webParam (word ++ ':' :: ':' :: tail.takeWhile isSelectorChar)
  | some .quantum, ':' :: ':' :: tail =>
    verbatim .quantumParam (word ++ ':' :: ':' :: restOfLine tail)
  | some .code, ':' :: ':' :: _ => verbatim .languageParam (word ++ [':', ':'])
  | _, _ => verbatim .identifier word

/-! ## The lexeme at a character -/

/-- Whether the character separates tokens and belongs to none. -/
def isBlank (char : Char) : Bool :=
  char == ' ' || char == '\t' || char == '\r'

/-- The lexeme at a character that is no blank, with the characters after it.
Three quotes are no string, numeric characters begin a number even if they are
letters too, and two slashes begin a comment. -/
def scan : Char → List Char → Lexeme
  | '\n', _ => verbatim .newline ['\n']
  | ':', ':' :: rest => invocation rest
  | '-', '>' :: _ => verbatim .outputBinding ['-', '>']
  | '\x7b', _ => verbatim .dataBlockStart ['\x7b']
  | '\x7d', _ => verbatim .dataBlockEnd ['\x7d']
  | '"', '"' :: '"' :: _ => verbatim .tripleQuote ['"', '"', '"']
  | '"', rest => stringLiteral '"' rest
  | '\'', rest => stringLiteral '\'' rest
  | '/', '/' :: rest =>
    verbatim (commentKind ('/' :: '/' :: rest)) ('/' :: '/' :: restOfLine rest)
  | char, rest =>
    if Text.isNumeric char then verbatim .number (numberRun false (char :: rest))
    else if Text.isAlphabetic char || char == '_' then
      wordOrTag ((char :: rest).takeWhile isNameChar) ((char :: rest).dropWhile isNameChar)
    else verbatim .unknown [char]

/-! ## Progress -/

/-- No lexeme is empty, so scanning makes progress. -/
theorem scan_raw_ne_nil (char : Char) (rest : List Char) : (scan char rest).raw ≠ [] := by
  have wordCovered : ∀ word after : List Char, word ≠ [] → (wordOrTag word after).raw ≠ [] := by
    intro word after nonempty
    unfold wordOrTag
    split <;> simp [nonempty]
  unfold scan
  split
  · simp
  · unfold invocation
    split <;> simp
  · simp
  · simp
  · simp
  · simp
  · simp [stringLiteral]
  · simp [stringLiteral]
  · simp
  · split
    · rename_i numeric
      rw [verbatim_raw, numberRun]
      split
      · simp
      · simp
    · split
      · rename_i wordStart
        apply wordCovered
        have named : isNameChar char = true := by
          simp only [Bool.or_eq_true] at wordStart
          rcases wordStart with letter | underscore
          · simp [isNameChar, letter]
          · simp [isNameChar, underscore]
        simp [named]
      · simp

end Lexeme
end Ritual
