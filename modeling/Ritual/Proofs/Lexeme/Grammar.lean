import Ritual.Lexeme

namespace Ritual
namespace Lexeme

/-!
# The grammar of lexemes

`Stands lexeme after` says, without reference to a scanner, that a lexeme may
stand before the characters `after`: it has one of the listed forms, and what
follows neither continues it nor makes it another lexeme.  The scanner finds
exactly the lexemes that stand where it looks (`exists_stands`, `Stands.scan_eq`).

A lexeme looks at no more than two characters behind it.  What these may be
replaced by without changing the lexeme is `MayFollow`; in particular a line
feed may always stand there, unless the lexeme is a literal that lacks its
closing quote and so ends with the source.
-/

/-! ## Runs of characters -/

variable {Item : Type}

/-- A run of items with a property ends before these items. -/
def Stops (property : Item → Bool) (after : List Item) : Prop :=
  ∀ item, after.head? = some item → property item = false

theorem stops_nil (property : Item → Bool) : Stops property [] := by
  intro item found
  cases found

theorem stops_cons {property : Item → Bool} {item : Item} {rest : List Item} :
    Stops property (item :: rest) ↔ property item = false := by
  constructor
  · intro stops
    exact stops item rfl
  · rintro outside other found
    cases found
    exact outside

/-- An item without a property is none of a run that has it. -/
theorem not_mem_of_outside {property : Item → Bool} {item : Item} {run : List Item}
    (outside : property item = false) (inside : ∀ other ∈ run, property other = true) :
    item ∉ run := by
  intro listed
  rw [inside item listed] at outside
  cases outside

theorem not_mem_iff_bne {mark : Char} {chars : List Char} :
    mark ∉ chars ↔ ∀ char ∈ chars, (char != mark) = true := by
  constructor
  · intro absent char listed
    have different : char ≠ mark := by
      rintro rfl
      exact absent listed
    simpa using different
  · intro apart listed
    simpa using apart mark listed

theorem Stops.of_append {property : Item → Bool} {front rest : List Item}
    (stops : Stops property (front ++ rest)) : Stops property front := by
  cases front with
  | nil => exact stops_nil property
  | cons item others => exact stops

theorem Stops.append {property : Item → Bool} {front rest : List Item}
    (stops : Stops property front) (restStops : Stops property rest) :
    Stops property (front ++ rest) := by
  cases front with
  | nil => exact restStops
  | cons item others => exact stops

theorem takeWhile_of_stops {property : Item → Bool} {run after : List Item}
    (inside : ∀ item ∈ run, property item = true) (stops : Stops property after) :
    (run ++ after).takeWhile property = run := by
  rw [List.takeWhile_append_of_pos inside]
  cases after with
  | nil => simp
  | cons item rest => simp [stops_cons.mp stops]

theorem takeWhile_append_of_stops {property : Item → Bool} (front : List Item) {after : List Item}
    (stops : Stops property after) :
    (front ++ after).takeWhile property = front.takeWhile property := by
  induction front with
  | nil =>
    have inside : ∀ item ∈ ([] : List Item), property item = true := by
      intro item impossible
      cases impossible
    exact takeWhile_of_stops inside stops
  | cons item rest inductionHypothesis =>
    rw [List.cons_append, List.takeWhile_cons, List.takeWhile_cons, inductionHypothesis]

theorem dropWhile_of_stops {property : Item → Bool} {run after : List Item}
    (inside : ∀ item ∈ run, property item = true) (stops : Stops property after) :
    (run ++ after).dropWhile property = after := by
  rw [List.dropWhile_append_of_pos inside]
  cases after with
  | nil => rfl
  | cons item rest => simp [stops_cons.mp stops]

/-- A run is told from what ends it, so lists that go on with different items behind their
runs are the same only with the same runs. -/
theorem append_inj_of_stops {property : Item → Bool} {left right leftAfter rightAfter : List Item}
    (leftInside : ∀ item ∈ left, property item = true)
    (rightInside : ∀ item ∈ right, property item = true)
    (leftStops : Stops property leftAfter) (rightStops : Stops property rightAfter)
    (same : left ++ leftAfter = right ++ rightAfter) : left = right ∧ leftAfter = rightAfter := by
  have runs := congrArg (List.takeWhile property) same
  have rests := congrArg (List.dropWhile property) same
  rw [takeWhile_of_stops leftInside leftStops, takeWhile_of_stops rightInside rightStops] at runs
  rw [dropWhile_of_stops leftInside leftStops, dropWhile_of_stops rightInside rightStops] at rests
  exact ⟨runs, rests⟩

/-- Every list begins with the run of those items that have a property. -/
theorem exists_run (property : Item → Bool) (items : List Item) :
    ∃ run after, items = run ++ after ∧ (∀ item ∈ run, property item = true) ∧
      Stops property after := by
  refine ⟨items.takeWhile property, items.dropWhile property,
    List.takeWhile_append_dropWhile.symm, List.all_eq_true.mp List.all_takeWhile, ?_⟩
  intro item found
  have stopped := List.head?_dropWhile_not property items
  rw [found] at stopped
  exact stopped

/-! ## The forms -/

/-- The characters between the quotes of a literal and the value that they
denote. -/
inductive LiteralBody (closing : Char) : List Char → List Char → Prop where
  | nil : LiteralBody closing [] []
  | plain {char : Char} {raw value : List Char} (inside : char ≠ closing)
      (unescaped : char ≠ '\\') (rest : LiteralBody closing raw value) :
      LiteralBody closing (char :: raw) (char :: value)
  | escaped {char : Char} {raw value : List Char} (rest : LiteralBody closing raw value) :
      LiteralBody closing ('\\' :: char :: raw) (unescape char :: value)

/-- Whether a character begins a word: a letter or the underscore, and no
number. -/
def startsWord (char : Char) : Bool :=
  !Text.isNumeric char && (Text.isAlphabetic char || char == '_')

/-- A non-empty name whose first character may begin a word. -/
structure IsWord (word : List Char) : Prop where
  starts : ∃ first rest, word = first :: rest ∧ startsWord first = true
  named : ∀ char ∈ word, isNameChar char = true

/-- What makes a tag of a tag word that stands before it. -/
def TagWord.marker : TagWord → List Char
  | language => ['[']
  | web | quantum | code => [':', ':']

/-- The characters that are a lexeme of their own wherever they stand, or begin
a literal. -/
def isSign (char : Char) : Bool :=
  char == '\n' || char == '\x7b' || char == '\x7d' || char == '"' || char == '\''

/-- The lexemes that stand before some characters. -/
inductive Stands : Lexeme → List Char → Prop where
  | newline {after : List Char} : Stands (verbatim .newline ['\n']) after
  | outputBinding {after : List Char} : Stands (verbatim .outputBinding ['-', '>']) after
  | dataBlockStart {after : List Char} : Stands (verbatim .dataBlockStart ['\x7b']) after
  | dataBlockEnd {after : List Char} : Stands (verbatim .dataBlockEnd ['\x7d']) after
  | tripleQuote {after : List Char} : Stands (verbatim .tripleQuote ['"', '"', '"']) after
  /-- A school, a colon and an operation behind two colons. -/
  | schoolInvocation {school operation after : List Char}
      (schoolNamed : ∀ char ∈ school, isNameChar char = true)
      (operationNamed : ∀ char ∈ operation, isNameChar char = true)
      (stops : Stops isNameChar after) :
      Stands (verbatim .schoolInvocation (':' :: ':' :: (school ++ ':' :: operation))) after
  /-- A school behind two colons without an operation. -/
  | loneSchool {school after : List Char}
      (schoolNamed : ∀ char ∈ school, isNameChar char = true)
      (stops : Stops isNameChar after) (noColon : after.head? ≠ some ':') :
      Stands (verbatim .unknown (':' :: ':' :: school)) after
  | closedString {quote : Char} {raw value after : List Char}
      (quoted : quote = '"' ∨ quote = '\'') (body : LiteralBody quote raw value)
      (noTriple : quote = '"' → raw = [] → after.head? ≠ some '"') :
      Stands ⟨.string, quote :: (raw ++ [quote]), value⟩ after
  /-- A literal that the end of the source ends. -/
  | openString {quote : Char} {raw value : List Char} (quoted : quote = '"' ∨ quote = '\'')
      (body : LiteralBody quote raw value) : Stands ⟨.string, quote :: raw, value⟩ []
  /-- A literal that ends with the source in the middle of an escape. -/
  | brokenString {quote : Char} {raw value : List Char} (quoted : quote = '"' ∨ quote = '\'')
      (body : LiteralBody quote raw value) :
      Stands ⟨.string, quote :: (raw ++ ['\\']), value⟩ []
  | comment {text after : List Char} (oneLine : ∀ char ∈ text, (char != '\n') = true)
      (stops : Stops (· != '\n') after) :
      Stands (verbatim (commentKind ('/' :: '/' :: text)) ('/' :: '/' :: text)) after
  | wholeNumber {digits after : List Char} (nonempty : digits ≠ [])
      (numeric : ∀ char ∈ digits, Text.isNumeric char = true)
      (stops : Stops Text.isNumeric after) (noPoint : after.head? ≠ some '.') :
      Stands (verbatim .number digits) after
  | pointNumber {digits fraction after : List Char} (nonempty : digits ≠ [])
      (numeric : ∀ char ∈ digits, Text.isNumeric char = true)
      (fractionNumeric : ∀ char ∈ fraction, Text.isNumeric char = true)
      (stops : Stops Text.isNumeric after) :
      Stands (verbatim .number (digits ++ '.' :: fraction)) after
  /-- A tag `LANGUAGE` with its closing bracket. -/
  | closedLanguage {word attributes after : List Char} (isWord : IsWord word)
      (tag : TagWord.ofName? word = some .language)
      (inside : ∀ char ∈ attributes, char ≠ '\n' ∧ char ≠ ']') :
      Stands (verbatim .languageParam (word ++ '[' :: (attributes ++ [']']))) after
  /-- A tag `LANGUAGE` that the end of its line ends. -/
  | openLanguage {word attributes after : List Char} (isWord : IsWord word)
      (tag : TagWord.ofName? word = some .language)
      (inside : ∀ char ∈ attributes, char ≠ '\n' ∧ char ≠ ']')
      (stops : Stops (· != '\n') after) :
      Stands (verbatim .languageParam (word ++ '[' :: attributes)) after
  | web {word selector after : List Char} (isWord : IsWord word)
      (tag : TagWord.ofName? word = some .web)
      (selects : ∀ char ∈ selector, isSelectorChar char = true)
      (stops : Stops isSelectorChar after) :
      Stands (verbatim .webParam (word ++ ':' :: ':' :: selector)) after
  | quantum {word text after : List Char} (isWord : IsWord word)
      (tag : TagWord.ofName? word = some .quantum)
      (oneLine : ∀ char ∈ text, (char != '\n') = true) (stops : Stops (· != '\n') after) :
      Stands (verbatim .quantumParam (word ++ ':' :: ':' :: text)) after
  | code {word after : List Char} (isWord : IsWord word)
      (tag : TagWord.ofName? word = some .code) :
      Stands (verbatim .languageParam (word ++ [':', ':'])) after
  | identifier {word after : List Char} (isWord : IsWord word) (stops : Stops isNameChar after)
      (unmarked : ∀ tag, TagWord.ofName? word = some tag → ¬tag.marker <+: after) :
      Stands (verbatim .identifier word) after
  /-- A single character that begins nothing else. -/
  | unknown {char : Char} {after : List Char} (visible : isBlank char = false)
      (noSign : isSign char = false) (noNumber : Text.isNumeric char = false)
      (noWord : startsWord char = false) (noSchool : char = ':' → after.head? ≠ some ':')
      (noArrow : char = '-' → after.head? ≠ some '>')
      (noComment : char = '/' → after.head? ≠ some '/') :
      Stands (verbatim .unknown [char]) after

/-! ## What may follow -/

/-- Characters that do not continue a lexeme that the old ones did not continue: nothing at
all, a line feed, or characters that begin as the old ones did. -/
structure Continues (original replacement : List Char) : Prop where
  head : ∀ char, replacement.head? = some char → char = '\n' ∨ original.head? = some char
  colons : [':', ':'] <+: replacement → [':', ':'] <+: original

/-- Characters that may stand behind any lexeme in place of the ones that stood there.
Nothing may be put behind the end of the source, where a literal may lack its closing
quote. -/
structure MayFollow (original replacement : List Char) : Prop
    extends Continues original replacement where
  ended : original = [] → replacement = []

namespace Continues

variable {original replacement : List Char}

theorem stops (continues : Continues original replacement) {property : Char → Bool}
    (lineFeed : property '\n' = false) (stopped : Stops property original) :
    Stops property replacement := by
  intro char found
  rcases continues.head char found with rfl | before
  · exact lineFeed
  · exact stopped char before

theorem head_ne (continues : Continues original replacement) {char : Char}
    (noLineFeed : char ≠ '\n') (different : original.head? ≠ some char) :
    replacement.head? ≠ some char := by
  intro found
  rcases continues.head char found with same | before
  · exact noLineFeed same
  · exact different before

theorem marker (continues : Continues original replacement) {tag : TagWord}
    (unmarked : ¬tag.marker <+: original) : ¬tag.marker <+: replacement := by
  intro marked
  cases tag with
  | language =>
    rcases marked with ⟨rest, rfl⟩
    rcases continues.head '[' rfl with impossible | before
    · exact absurd impossible (by decide)
    · rcases List.head?_eq_some_iff.mp before with ⟨rest, rfl⟩
      exact unmarked ⟨rest, rfl⟩
  | web => exact unmarked (continues.colons marked)
  | quantum => exact unmarked (continues.colons marked)
  | code => exact unmarked (continues.colons marked)

/-- A line feed continues nothing. -/
theorem newline (original rest : List Char) : Continues original ('\n' :: rest) where
  head := by
    intro char found
    cases found
    exact Or.inl rfl
  colons := by
    rintro ⟨tail, same⟩
    cases same

/-- The same character may stand before both. -/
theorem cons (continues : Continues original replacement) (char : Char) :
    Continues (char :: original) (char :: replacement) where
  head := fun _ found => Or.inr found
  colons := by
    rintro ⟨tail, same⟩
    rcases List.cons.inj same with ⟨rfl, remaining⟩
    have next : replacement.head? = some ':' := by
      rw [← remaining]
      rfl
    rcases continues.head ':' next with impossible | before
    · cases impossible
    · rcases List.head?_eq_some_iff.mp before with ⟨rest, rfl⟩
      exact ⟨rest, rfl⟩

/-- The same characters may stand before both. -/
theorem append (continues : Continues original replacement) (run : List Char) :
    Continues (run ++ original) (run ++ replacement) := by
  induction run with
  | nil => exact continues
  | cons char rest inductionHypothesis => exact inductionHypothesis.cons char

end Continues

namespace MayFollow

theorem nil (original : List Char) : MayFollow original [] where
  head := by
    intro char found
    cases found
  colons := by
    intro impossible
    exact absurd (List.prefix_nil.mp impossible) (by simp)
  ended := fun _ => rfl

theorem newline {original : List Char} (nonempty : original ≠ []) (rest : List Char) :
    MayFollow original ('\n' :: rest) where
  toContinues := .newline original rest
  ended := fun ended => absurd ended nonempty

/-- The same characters may stand before both. -/
theorem append {original replacement : List Char} (follows : MayFollow original replacement)
    (run : List Char) : MayFollow (run ++ original) (run ++ replacement) where
  toContinues := follows.toContinues.append run
  ended := by
    intro nothing
    rcases List.append_eq_nil_iff.mp nothing with ⟨rfl, ended⟩
    exact follows.ended ended

end MayFollow

/-- A literal that lacks its closing quote. -/
inductive Unclosed : Lexeme → Prop where
  | opened {quote : Char} {raw value : List Char} (quoted : quote = '"' ∨ quote = '\'')
      (body : LiteralBody quote raw value) : Unclosed ⟨.string, quote :: raw, value⟩
  | broken {quote : Char} {raw value : List Char} (quoted : quote = '"' ∨ quote = '\'')
      (body : LiteralBody quote raw value) : Unclosed ⟨.string, quote :: (raw ++ ['\\']), value⟩

/-- A lexeme stays what it is if characters that do not continue it take the place of those
behind it.  Only a literal without its closing quote minds what is put behind the end. -/
theorem Stands.replace_of {lexeme : Lexeme} {original replacement : List Char}
    (stands : Stands lexeme original) (follows : Continues original replacement)
    (ended : Unclosed lexeme → original = [] → replacement = []) : Stands lexeme replacement := by
  cases stands with
  | newline => exact .newline
  | outputBinding => exact .outputBinding
  | dataBlockStart => exact .dataBlockStart
  | dataBlockEnd => exact .dataBlockEnd
  | tripleQuote => exact .tripleQuote
  | schoolInvocation schoolNamed operationNamed stops =>
    exact .schoolInvocation schoolNamed operationNamed (follows.stops (by decide) stops)
  | loneSchool schoolNamed stops noColon =>
    exact .loneSchool schoolNamed (follows.stops (by decide) stops)
      (follows.head_ne (by decide) noColon)
  | closedString quoted body noTriple =>
    exact .closedString quoted body fun double empty =>
      follows.head_ne (by decide) (noTriple double empty)
  | openString quoted body =>
    rw [ended (.opened quoted body) rfl]
    exact .openString quoted body
  | brokenString quoted body =>
    rw [ended (.broken quoted body) rfl]
    exact .brokenString quoted body
  | comment oneLine stops => exact .comment oneLine (follows.stops (by decide) stops)
  | wholeNumber nonempty numeric stops noPoint =>
    exact .wholeNumber nonempty numeric (follows.stops (by decide) stops)
      (follows.head_ne (by decide) noPoint)
  | pointNumber nonempty numeric fractionNumeric stops =>
    exact .pointNumber nonempty numeric fractionNumeric (follows.stops (by decide) stops)
  | closedLanguage isWord tag inside => exact .closedLanguage isWord tag inside
  | openLanguage isWord tag inside stops =>
    exact .openLanguage isWord tag inside (follows.stops (by decide) stops)
  | web isWord tag selects stops =>
    exact .web isWord tag selects (follows.stops (by decide) stops)
  | quantum isWord tag oneLine stops =>
    exact .quantum isWord tag oneLine (follows.stops (by decide) stops)
  | code isWord tag => exact .code isWord tag
  | identifier isWord stops unmarked =>
    exact .identifier isWord (follows.stops (by decide) stops) fun tag named =>
      follows.marker (unmarked tag named)
  | unknown visible noSign noNumber noWord noSchool noArrow noComment =>
    exact .unknown visible noSign noNumber noWord
      (fun same => follows.head_ne (by decide) (noSchool same))
      (fun same => follows.head_ne (by decide) (noArrow same))
      (fun same => follows.head_ne (by decide) (noComment same))

/-- A lexeme stays what it is if characters that may follow take the place of
those behind it. -/
theorem Stands.replace {lexeme : Lexeme} {original replacement : List Char}
    (stands : Stands lexeme original) (follows : MayFollow original replacement) :
    Stands lexeme replacement :=
  stands.replace_of follows.toContinues fun _ => follows.ended

end Lexeme
end Ritual
