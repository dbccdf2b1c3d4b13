import Mathlib.Data.List.Count
import Ritual.Proofs.Lexeme.Kind

namespace Ritual
namespace Lexeme

/-!
# The lexical grammar, kind by kind

`Allows kind raw text after` says what a token of a kind may cover and denote before
the characters `after`.  A kind is described by what its tokens consist of and by what
must not follow, so that each description can be read on its own; only the single
character that is no other token refers to the other descriptions.

Each description is compared here with the constructors of `Stands`, which builds the
same lexemes up from their parts.  That the two agree as a whole is another module's
subject.
-/

/-! ## The descriptions -/

/-- The line ends here, or the source does. -/
def AtLineEnd (after : List Char) : Prop :=
  ∀ next, after.head? = some next → next = '\n'

/-- Whether characters are a name, which may be empty. -/
def IsName (chars : List Char) : Prop :=
  ∀ char ∈ chars, isNameChar char = true

/-- Two colons, a school, a colon and an operation, of which nothing is left out. -/
def IsInvocation (raw after : List Char) : Prop :=
  ∃ school operation, raw = ':' :: ':' :: (school ++ ':' :: operation) ∧ IsName school ∧
    IsName operation ∧ Stops isNameChar after

/-- Two colons and a school, with no operation behind it. -/
def IsLoneSchool (raw after : List Char) : Prop :=
  ∃ school, raw = ':' :: ':' :: school ∧ IsName school ∧ Stops isNameChar after ∧
    after.head? ≠ some ':'

/-- A literal between quotes of one kind, or from a quote to the end of the source.  Three
double quotes do not begin one. -/
def IsLiteral (raw text after : List Char) : Prop :=
  ∃ quote body, (quote = '"' ∨ quote = '\'') ∧ LiteralBody quote body text ∧
    ¬['"', '"', '"'] <+: raw ++ after ∧
    (raw = quote :: (body ++ [quote]) ∨
      after = [] ∧ (raw = quote :: body ∨ raw = quote :: (body ++ ['\\'])))

/-- Whether a comment's kind is that of the longest sigil that it begins with. -/
def HasSigilOf (kind : TokenKind) (raw : List Char) : Prop :=
  (∃ sigil, (sigil, kind) ∈ sigils ∧ sigil <+: raw ∧
      ∀ other ∈ sigils, other.1 <+: raw → other.1.length ≤ sigil.length) ∨
    kind = .commentStandard ∧ ∀ sigil ∈ sigils, ¬sigil.1 <+: raw

/-- Two slashes and the rest of the line. -/
def IsComment (kind : TokenKind) (raw after : List Char) : Prop :=
  ['/', '/'] <+: raw ∧ '\n' ∉ raw ∧ AtLineEnd after ∧ HasSigilOf kind raw

/-- Whether characters are a number: numeric characters with at most one point, which is
not the first. -/
structure IsNumber (chars : List Char) : Prop where
  starts : ∃ first, chars.head? = some first ∧ Text.isNumeric first = true
  consists : ∀ char ∈ chars, Text.isNumeric char = true ∨ char = '.'
  points : chars.count '.' ≤ 1

/-- A number that the next character does not continue. -/
def IsWholeNumber (raw after : List Char) : Prop :=
  IsNumber raw ∧ ∀ next, after.head? = some next → ¬IsNumber (raw ++ [next])

/-- Whether a word is the given one, in any ASCII case.  The given word is in capitals. -/
def SpelledAs (word : List Char) (capitals : String) : Prop :=
  String.ofList (word.map Char.toUpper) = capitals

/-- The reserved words, each with the marker that makes a tag of it. -/
def reserved : List (String × List Char) :=
  [("LANGUAGE", ['[']), ("WEB", [':', ':']), ("QUANTUM", [':', ':']), ("PYTHON", [':', ':']),
    ("JAVASCRIPT", [':', ':']), ("JS", [':', ':'])]

/-- A whole name that begins with a letter or an underscore, and is no reserved word
before its marker. -/
def IsIdentifier (raw after : List Char) : Prop :=
  (∃ first, raw.head? = some first ∧ (first = '_' ∨ Text.isAlphabetic first = true) ∧
      Text.isNumeric first = false) ∧
    IsName raw ∧ Stops isNameChar after ∧
    ∀ entry ∈ reserved, SpelledAs raw entry.1 → ¬entry.2 <+: after

/-- Characters through the first closing bracket, or up to the end of the line. -/
def IsThroughBracket (chars after : List Char) : Prop :=
  ∃ attributes, (∀ char ∈ attributes, char ≠ '\n' ∧ char ≠ ']') ∧
    (chars = attributes ++ [']'] ∨ chars = attributes ∧ AtLineEnd after)

/-- A tag of a language: `LANGUAGE` with its attributes, or another word that names a
language and two colons. -/
def IsLanguageTag (raw after : List Char) : Prop :=
  (∃ word attributes, SpelledAs word "LANGUAGE" ∧ raw = word ++ '[' :: attributes ∧
      IsThroughBracket attributes after) ∨
    ∃ word, (SpelledAs word "PYTHON" ∨ SpelledAs word "JAVASCRIPT" ∨ SpelledAs word "JS") ∧
      raw = word ++ [':', ':']

/-- The word `WEB`, two colons and the characters before the first line feed, space or
colon. -/
def IsWebTag (raw after : List Char) : Prop :=
  ∃ word selector, SpelledAs word "WEB" ∧ raw = word ++ ':' :: ':' :: selector ∧
    (∀ char ∈ selector, char ≠ '\n' ∧ char ≠ ' ' ∧ char ≠ ':') ∧
    ∀ next, after.head? = some next → next = '\n' ∨ next = ' ' ∨ next = ':'

/-- The word `QUANTUM`, two colons and the rest of the line. -/
def IsQuantumTag (raw after : List Char) : Prop :=
  ∃ word line, SpelledAs word "QUANTUM" ∧ raw = word ++ ':' :: ':' :: line ∧ '\n' ∉ line ∧
    AtLineEnd after

/-- What a token of a kind covers and denotes. -/
def Shape : TokenKind → List Char → List Char → List Char → Prop
  | .schoolInvocation, raw, _, after => IsInvocation raw after
  | .outputBinding, raw, _, _ => raw = ['-', '>']
  | .dataBlockStart, raw, _, _ => raw = ['\x7b']
  | .dataBlockEnd, raw, _, _ => raw = ['\x7d']
  | .tripleQuote, raw, _, _ => raw = ['"', '"', '"']
  | .languageParam, raw, _, after => IsLanguageTag raw after
  | .webParam, raw, _, after => IsWebTag raw after
  | .quantumParam, raw, _, after => IsQuantumTag raw after
  | .commentDoc, raw, _, after => IsComment .commentDoc raw after
  | .commentGuardian, raw, _, after => IsComment .commentGuardian raw after
  | .commentPrereq, raw, _, after => IsComment .commentPrereq raw after
  | .commentLove, raw, _, after => IsComment .commentLove raw after
  | .commentDrift, raw, _, after => IsComment .commentDrift raw after
  | .commentWild, raw, _, after => IsComment .commentWild raw after
  | .commentStandard, raw, _, after => IsComment .commentStandard raw after
  | .string, raw, text, after => IsLiteral raw text after
  | .number, raw, _, after => IsWholeNumber raw after
  | .identifier, raw, _, after => IsIdentifier raw after
  | .newline, raw, _, _ => raw = ['\n']
  | .eof, raw, _, after => raw = [] ∧ after = []
  | .unknown, raw, _, after => IsLoneSchool raw after

/-- A token of a kind, which denotes what it covers unless it is a literal. -/
def Form (kind : TokenKind) (raw text after : List Char) : Prop :=
  Shape kind raw text after ∧ (kind ≠ .string → text = raw)

/-- A single character, no blank, at which no token of any form begins. -/
def IsStray (kind : TokenKind) (raw text after : List Char) : Prop :=
  kind = .unknown ∧ text = raw ∧ ∃ char, raw = [char] ∧ isBlank char = false ∧
    ∀ otherKind otherRaw otherText rest, char :: after = otherRaw ++ rest →
      ¬Form otherKind otherRaw otherText rest

/-- What the grammar allows before the characters `after`. -/
def Allows (kind : TokenKind) (raw text after : List Char) : Prop :=
  Form kind raw text after ∨ IsStray kind raw text after

/-! ## Ends of lines -/

theorem atLineEnd_iff_stops {after : List Char} : AtLineEnd after ↔ Stops (· != '\n') after := by
  constructor
  · intro ended next found
    simp [ended next found]
  · intro stops next found
    simpa using stops next found

/-! ## Words -/

theorem startsWord_iff {char : Char} : startsWord char = true ↔
    (char = '_' ∨ Text.isAlphabetic char = true) ∧ Text.isNumeric char = false := by
  simp only [startsWord, Bool.and_eq_true, Bool.not_eq_true', Bool.or_eq_true, beq_iff_eq]
  constructor
  · rintro ⟨noNumber, letter | underscore⟩
    · exact ⟨Or.inr letter, noNumber⟩
    · exact ⟨Or.inl underscore, noNumber⟩
  · rintro ⟨underscore | letter, noNumber⟩
    · exact ⟨noNumber, Or.inr underscore⟩
    · exact ⟨noNumber, Or.inl letter⟩

/-- The reserved words that a tag word may be. -/
def TagWord.spellings : TagWord → List String
  | language => ["LANGUAGE"]
  | web => ["WEB"]
  | quantum => ["QUANTUM"]
  | code => ["PYTHON", "JAVASCRIPT", "JS"]

theorem mem_reserved {capitals : String} {marker : List Char} : (capitals, marker) ∈ reserved ↔
    ∃ tag : TagWord, capitals ∈ tag.spellings ∧ tag.marker = marker := by
  constructor
  · intro listed
    simp only [reserved, List.mem_cons, Prod.mk.injEq, List.not_mem_nil, or_false] at listed
    rcases listed with ⟨rfl, rfl⟩ | ⟨rfl, rfl⟩ | ⟨rfl, rfl⟩ | ⟨rfl, rfl⟩ | ⟨rfl, rfl⟩ | ⟨rfl, rfl⟩
    · exact ⟨.language, List.mem_singleton_self _, rfl⟩
    · exact ⟨.web, List.mem_singleton_self _, rfl⟩
    · exact ⟨.quantum, List.mem_singleton_self _, rfl⟩
    all_goals exact ⟨.code, by simp [TagWord.spellings], rfl⟩
  · rintro ⟨tag, spelling, rfl⟩
    cases tag
    case code =>
      simp only [TagWord.spellings, List.mem_cons, List.not_mem_nil, or_false] at spelling
      rcases spelling with rfl | rfl | rfl <;> simp [reserved, TagWord.marker]
    all_goals
      rw [List.mem_singleton.mp spelling]
      simp [reserved, TagWord.marker]

/-- The spellings of a tag word are in capitals, and name it. -/
theorem named_of_mem_spellings (tag : TagWord) : ∀ capitals ∈ tag.spellings,
    TagWord.ofName? capitals.toList = some tag ∧
      String.ofList (capitals.toList.map Char.toUpper) = capitals ∧
      capitals.toList ≠ [] ∧ capitals.toList.all Char.isUpper = true := by
  cases tag <;> decide

theorem ofName?_eq_some_iff {word : List Char} {tag : TagWord} :
    TagWord.ofName? word = some tag ↔ ∃ capitals ∈ tag.spellings, SpelledAs word capitals := by
  unfold TagWord.ofName? SpelledAs
  constructor
  · intro named
    split at named
    case h_7 => cases named
    all_goals
      rename_i spelled
      obtain rfl := Option.some.inj named
      exact ⟨_, by simp [TagWord.spellings], spelled⟩
  · rintro ⟨capitals, listed, spelled⟩
    rcases named_of_mem_spellings tag capitals listed with ⟨named, capital, _⟩
    unfold TagWord.ofName? at named
    rw [spelled, ← capital]
    exact named

theorem named_of_ascii : ∀ code < 128, (Char.ofNat code).toUpper.isUpper = true →
    startsWord (Char.ofNat code) = true ∧ isNameChar (Char.ofNat code) = true := by
  decide

theorem ascii_of_toUpper {char : Char} (capital : char.toUpper.isUpper = true) :
    char.toNat < 128 := by
  unfold Char.toUpper at capital
  split at capital
  · rename_i small
    have below : char.toNat ≤ 122 := UInt32.le_iff_toNat_le.mp small.2
    omega
  · have bounds : char.val ≥ 'A'.val ∧ char.val ≤ 'Z'.val := of_decide_eq_true capital
    have below : char.toNat ≤ 90 := UInt32.le_iff_toNat_le.mp bounds.2
    omega

theorem named_of_toUpper {char : Char} (capital : char.toUpper.isUpper = true) :
    startsWord char = true ∧ isNameChar char = true := by
  have checked := named_of_ascii char.toNat (ascii_of_toUpper capital)
  rw [Char.ofNat_toNat] at checked
  exact checked capital

/-- Whatever spells a tag word is a word. -/
theorem isWord_of_ofName? {word : List Char} {tag : TagWord}
    (named : TagWord.ofName? word = some tag) : IsWord word := by
  rcases ofName?_eq_some_iff.mp named with ⟨capitals, listed, spelled⟩
  have letters : word.map Char.toUpper = capitals.toList := by
    rw [← spelled, String.toList_ofList]
  rcases named_of_mem_spellings tag capitals listed with ⟨_, _, nonempty, capital⟩
  have chars : ∀ char ∈ word, startsWord char = true ∧ isNameChar char = true := by
    intro char member
    apply named_of_toUpper
    apply List.all_eq_true.mp capital
    rw [← letters]
    exact List.mem_map_of_mem member
  constructor
  · cases word with
    | nil => exact absurd letters.symm nonempty
    | cons first rest => exact ⟨first, rest, rfl, (chars first List.mem_cons_self).1⟩
  · intro char member
    exact (chars char member).2

theorem unmarked_iff {word after : List Char} :
    (∀ tag, TagWord.ofName? word = some tag → ¬tag.marker <+: after) ↔
      ∀ entry ∈ reserved, SpelledAs word entry.1 → ¬entry.2 <+: after := by
  constructor
  · rintro unmarked ⟨capitals, marker⟩ listed spelled
    rcases mem_reserved.mp listed with ⟨tag, spelling, rfl⟩
    exact unmarked tag (ofName?_eq_some_iff.mpr ⟨capitals, spelling, spelled⟩)
  · intro unmarked tag named
    rcases ofName?_eq_some_iff.mp named with ⟨capitals, spelling, spelled⟩
    exact unmarked _ (mem_reserved.mpr ⟨tag, spelling, rfl⟩) spelled

/-! ## Comments -/

theorem sigils_ordered : sigils.Pairwise fun first second =>
    second.1.length ≤ first.1.length := by
  decide

theorem sigils_unique : ∀ first ∈ sigils, ∀ second ∈ sigils, first.1 = second.1 →
    first = second := by
  decide

/-- The sigil that is found first is the longest. -/
theorem hasSigilOf_commentKind (raw : List Char) : HasSigilOf (commentKind raw) raw := by
  unfold commentKind
  split
  · rename_i sigil found
    rcases List.find?_eq_some_iff_append.mp found with ⟨begins, before, after, parts, skipped⟩
    have ordered := sigils_ordered
    rw [parts] at ordered
    have shorter := (List.pairwise_cons.mp (List.pairwise_append.mp ordered).2.1).1
    refine Or.inl ⟨sigil.1, List.mem_of_find?_eq_some found,
      List.isPrefixOf_iff_prefix.mp begins, ?_⟩
    intro other listed otherBegins
    rw [parts] at listed
    rcases List.mem_append.mp listed with inBefore | inRest
    · have noPrefix := skipped other inBefore
      rw [List.isPrefixOf_iff_prefix.mpr otherBegins] at noPrefix
      cases noPrefix
    · rcases List.mem_cons.mp inRest with rfl | inAfter
      · exact Nat.le_refl _
      · exact shorter other inAfter
  · rename_i missing
    refine Or.inr ⟨rfl, ?_⟩
    intro sigil listed begins
    have found := List.find?_eq_none.mp missing sigil listed
    exact found (List.isPrefixOf_iff_prefix.mpr begins)

theorem HasSigilOf.unique {first second : TokenKind} {raw : List Char}
    (left : HasSigilOf first raw) (right : HasSigilOf second raw) : first = second := by
  rcases left with ⟨sigil, listed, begins, longest⟩ | ⟨rfl, none⟩
  · rcases right with ⟨other, otherListed, otherBegins, otherLongest⟩ | ⟨rfl, none⟩
    · have lengths := Nat.le_antisymm (otherLongest _ listed begins)
        (longest _ otherListed otherBegins)
      have same := (List.prefix_of_prefix_length_le begins otherBegins
        (Nat.le_of_eq lengths)).eq_of_length lengths
      exact congrArg Prod.snd (sigils_unique _ listed _ otherListed same)
    · exact absurd begins (none _ listed)
  · rcases right with ⟨other, otherListed, otherBegins, _⟩ | ⟨rfl, _⟩
    · exact absurd otherBegins (none _ otherListed)
    · rfl

theorem isComment_commentKind {text after : List Char}
    (oneLine : ∀ char ∈ text, (char != '\n') = true) (stops : Stops (· != '\n') after) :
    IsComment (commentKind ('/' :: '/' :: text)) ('/' :: '/' :: text) after := by
  refine ⟨⟨text, rfl⟩, ?_, atLineEnd_iff_stops.mpr stops, hasSigilOf_commentKind _⟩
  have absent := not_mem_iff_bne.mpr oneLine
  simpa using absent

theorem IsComment.stands {kind : TokenKind} {raw after : List Char}
    (comment : IsComment kind raw after) : Stands (verbatim kind raw) after := by
  rcases comment with ⟨⟨text, rfl⟩, oneLine, ended, sigil⟩
  rw [sigil.unique (hasSigilOf_commentKind _)]
  apply Stands.comment
  · apply not_mem_iff_bne.mp
    intro listed
    exact oneLine (List.mem_append_right _ listed)
  · exact atLineEnd_iff_stops.mp ended

/-! ## Numbers -/

theorem point_not_numeric : Text.isNumeric '.' = false := by
  decide

theorem count_point_of_numeric {digits : List Char}
    (numeric : ∀ char ∈ digits, Text.isNumeric char = true) : digits.count '.' = 0 :=
  List.count_eq_zero.mpr (not_mem_of_outside point_not_numeric numeric)

theorem count_point_of_fraction {digits fraction : List Char}
    (numeric : ∀ char ∈ digits, Text.isNumeric char = true)
    (fractionNumeric : ∀ char ∈ fraction, Text.isNumeric char = true) :
    (digits ++ '.' :: fraction).count '.' = 1 := by
  rw [List.count_append, count_point_of_numeric numeric, List.count_cons_self,
    count_point_of_numeric fractionNumeric]

theorem isNumber_of_numeric {digits : List Char} (nonempty : digits ≠ [])
    (numeric : ∀ char ∈ digits, Text.isNumeric char = true) : IsNumber digits where
  starts := by
    rcases List.exists_cons_of_ne_nil nonempty with ⟨first, rest, rfl⟩
    exact ⟨first, rfl, numeric first List.mem_cons_self⟩
  consists := fun char listed => Or.inl (numeric char listed)
  points := by
    rw [count_point_of_numeric numeric]
    exact Nat.zero_le 1

theorem isNumber_of_fraction {digits fraction : List Char} (nonempty : digits ≠ [])
    (numeric : ∀ char ∈ digits, Text.isNumeric char = true)
    (fractionNumeric : ∀ char ∈ fraction, Text.isNumeric char = true) :
    IsNumber (digits ++ '.' :: fraction) where
  starts := by
    rcases List.exists_cons_of_ne_nil nonempty with ⟨first, rest, rfl⟩
    exact ⟨first, rfl, numeric first List.mem_cons_self⟩
  consists := by
    intro char listed
    rcases List.mem_append.mp listed with inDigits | inRest
    · exact Or.inl (numeric char inDigits)
    · rcases List.mem_cons.mp inRest with point | inFraction
      · exact Or.inr point
      · exact Or.inl (fractionNumeric char inFraction)
  points := Nat.le_of_eq (count_point_of_fraction numeric fractionNumeric)

/-- A numeric character continues every number. -/
theorem IsNumber.append_numeric {raw : List Char} (number : IsNumber raw) {next : Char}
    (digit : Text.isNumeric next = true) : IsNumber (raw ++ [next]) where
  starts := by
    rcases number.starts with ⟨first, found, starts⟩
    rcases List.head?_eq_some_iff.mp found with ⟨rest, rfl⟩
    exact ⟨first, rfl, starts⟩
  consists := by
    intro char listed
    rcases List.mem_append.mp listed with inRaw | isNext
    · exact number.consists char inRaw
    · rw [List.mem_singleton.mp isNext]
      exact Or.inl digit
  points := by
    have single : [next].count '.' = 0 := count_point_of_numeric (by simpa using digit)
    rw [List.count_append, single]
    exact number.points

/-- A number is a run of digits, or two of them with a point between. -/
theorem IsNumber.exists_digits {raw : List Char} (number : IsNumber raw) :
    ∃ digits, digits ≠ [] ∧ (∀ char ∈ digits, Text.isNumeric char = true) ∧
      (raw = digits ∨ ∃ fraction, raw = digits ++ '.' :: fraction ∧
        ∀ char ∈ fraction, Text.isNumeric char = true) := by
  rcases exists_run Text.isNumeric raw with ⟨digits, rest, rfl, numeric, rawStops⟩
  have nonempty : digits ≠ [] := by
    rintro rfl
    rcases number.starts with ⟨first, found, starts⟩
    rw [rawStops first found] at starts
    cases starts
  refine ⟨digits, nonempty, numeric, ?_⟩
  cases rest with
  | nil => exact Or.inl (List.append_nil _)
  | cons char fraction =>
    have noDigit := stops_cons.mp rawStops
    obtain rfl : char = '.' := by
      rcases number.consists char (by simp) with digit | point
      · rw [noDigit] at digit
        cases digit
      · exact point
    refine Or.inr ⟨fraction, rfl, ?_⟩
    intro other listed
    rcases number.consists other (by simp [listed]) with digit | rfl
    · exact digit
    · -- the point that ends the digits is the only one
      have points := number.points
      have positive := List.count_pos_iff.mpr listed
      rw [List.count_append, List.count_cons_self] at points
      omega

theorem isWholeNumber_digits {digits after : List Char} (nonempty : digits ≠ [])
    (numeric : ∀ char ∈ digits, Text.isNumeric char = true) (stops : Stops Text.isNumeric after)
    (noPoint : after.head? ≠ some '.') : IsWholeNumber digits after := by
  refine ⟨isNumber_of_numeric nonempty numeric, ?_⟩
  intro next found longer
  rcases longer.consists next (by simp) with digit | point
  · rw [stops next found] at digit
    cases digit
  · rw [point] at found
    exact noPoint found

theorem isWholeNumber_fraction {digits fraction after : List Char} (nonempty : digits ≠ [])
    (numeric : ∀ char ∈ digits, Text.isNumeric char = true)
    (fractionNumeric : ∀ char ∈ fraction, Text.isNumeric char = true)
    (stops : Stops Text.isNumeric after) : IsWholeNumber (digits ++ '.' :: fraction) after := by
  refine ⟨isNumber_of_fraction nonempty numeric fractionNumeric, ?_⟩
  intro next found longer
  rcases longer.consists next (by simp) with digit | rfl
  · rw [stops next found] at digit
    cases digit
  · have points := longer.points
    rw [List.count_append, count_point_of_fraction numeric fractionNumeric,
      List.count_singleton_self] at points
    omega

theorem IsWholeNumber.stands {raw after : List Char} (whole : IsWholeNumber raw after) :
    Stands (verbatim .number raw) after := by
  rcases whole with ⟨number, ended⟩
  have stops : Stops Text.isNumeric after := by
    intro next found
    apply Bool.eq_false_iff.mpr
    intro digit
    exact ended next found (number.append_numeric digit)
  rcases number.exists_digits with ⟨digits, nonempty, numeric, rfl | ⟨fraction, rfl, fractional⟩⟩
  · refine .wholeNumber nonempty numeric stops ?_
    intro point
    exact ended '.' point (isNumber_of_fraction nonempty numeric (by simp))
  · exact .pointNumber nonempty numeric fractional stops

/-! ## Literals -/

/-- Three quotes at the beginning of a literal are two that its body does not begin with. -/
theorem LiteralBody.tripled {quote : Char} {raw value rest : List Char}
    (body : LiteralBody quote raw value) (quoted : quote = '"' ∨ quote = '\'')
    (triple : ['"', '"', '"'] <+: quote :: (raw ++ rest)) :
    quote = '"' ∧ raw = [] ∧ ['"', '"'] <+: rest := by
  have head := body.head?_ne (not_backslash_of_quoted quoted)
  rcases triple with ⟨tail, same⟩
  rcases List.cons.inj same with ⟨rfl, remaining⟩
  cases raw with
  | nil => exact ⟨rfl, rfl, tail, remaining⟩
  | cons char others =>
    exact absurd (congrArg some (List.cons.inj remaining).1.symm) head

theorem isLiteral_closed {quote : Char} {raw value after : List Char}
    (quoted : quote = '"' ∨ quote = '\'') (body : LiteralBody quote raw value)
    (noTriple : quote = '"' → raw = [] → after.head? ≠ some '"') :
    IsLiteral (quote :: (raw ++ [quote])) value after := by
  refine ⟨quote, raw, quoted, body, ?_, Or.inl rfl⟩
  rw [List.cons_append, List.append_assoc]
  intro triple
  rcases body.tripled quoted triple with ⟨double, empty, tail, same⟩
  have next : '"' :: tail = after := (List.cons.inj same).2
  apply noTriple double empty
  rw [← next]
  rfl

theorem isLiteral_open {quote : Char} {raw value ending : List Char}
    (quoted : quote = '"' ∨ quote = '\'') (body : LiteralBody quote raw value)
    (ended : ending = [] ∨ ending = ['\\']) :
    IsLiteral (quote :: (raw ++ ending)) value [] := by
  refine ⟨quote, raw, quoted, body, ?_, Or.inr ⟨rfl, ?_⟩⟩
  · rw [List.append_nil]
    intro triple
    rcases body.tripled quoted triple with ⟨_, _, tail, same⟩
    rcases ended with rfl | rfl
    · cases same
    · cases same
  · rcases ended with rfl | rfl
    · exact Or.inl (by rw [List.append_nil])
    · exact Or.inr rfl

theorem IsLiteral.stands {raw text after : List Char} (literal : IsLiteral raw text after) :
    Stands ⟨.string, raw, text⟩ after := by
  rcases literal with ⟨quote, body, quoted, spelled, noTriple, rfl | ⟨rfl, rfl | rfl⟩⟩
  · refine .closedString quoted spelled ?_
    rintro rfl rfl next
    rcases List.head?_eq_some_iff.mp next with ⟨rest, rfl⟩
    exact noTriple ⟨rest, rfl⟩
  · exact .openString quoted spelled
  · exact .brokenString quoted spelled

/-! ## Tags -/

theorem IsLanguageTag.stands {raw after : List Char} (tag : IsLanguageTag raw after) :
    Stands (verbatim .languageParam raw) after := by
  rcases tag with ⟨word, _, spelled, rfl, attributes, inside, rfl | ⟨rfl, ended⟩⟩ |
    ⟨word, spelled, rfl⟩
  · have named : TagWord.ofName? word = some .language :=
      ofName?_eq_some_iff.mpr ⟨_, List.mem_singleton_self _, spelled⟩
    exact .closedLanguage (isWord_of_ofName? named) named inside
  · have named : TagWord.ofName? word = some .language :=
      ofName?_eq_some_iff.mpr ⟨_, List.mem_singleton_self _, spelled⟩
    exact .openLanguage (isWord_of_ofName? named) named inside (atLineEnd_iff_stops.mp ended)
  · have named : TagWord.ofName? word = some .code := by
      apply ofName?_eq_some_iff.mpr
      rcases spelled with python | javascript | js
      · exact ⟨_, by simp [TagWord.spellings], python⟩
      · exact ⟨_, by simp [TagWord.spellings], javascript⟩
      · exact ⟨_, by simp [TagWord.spellings], js⟩
    exact .code (isWord_of_ofName? named) named

theorem isLanguageTag_attributes {word attributes rest after : List Char}
    (tag : TagWord.ofName? word = some .language)
    (inside : ∀ char ∈ attributes, char ≠ '\n' ∧ char ≠ ']')
    (parts : rest = attributes ++ [']'] ∨ rest = attributes ∧ AtLineEnd after) :
    IsLanguageTag (word ++ '[' :: rest) after := by
  rcases ofName?_eq_some_iff.mp tag with ⟨capitals, listed, spelled⟩
  obtain rfl := List.mem_singleton.mp listed
  exact Or.inl ⟨word, rest, spelled, rfl, attributes, inside, parts⟩

theorem isLanguageTag_code {word : List Char} (tag : TagWord.ofName? word = some .code)
    (after : List Char) : IsLanguageTag (word ++ [':', ':']) after := by
  rcases ofName?_eq_some_iff.mp tag with ⟨capitals, listed, spelled⟩
  refine Or.inr ⟨word, ?_, rfl⟩
  simp only [TagWord.spellings, List.mem_cons, List.not_mem_nil, or_false] at listed
  rcases listed with rfl | rfl | rfl
  · exact Or.inl spelled
  · exact Or.inr (Or.inl spelled)
  · exact Or.inr (Or.inr spelled)

theorem isSelectorChar_iff {char : Char} :
    isSelectorChar char = true ↔ char ≠ '\n' ∧ char ≠ ' ' ∧ char ≠ ':' := by
  simp only [isSelectorChar, Bool.and_eq_true, bne_iff_ne, and_assoc]

theorem stops_isSelectorChar_iff {after : List Char} : Stops isSelectorChar after ↔
    ∀ next, after.head? = some next → next = '\n' ∨ next = ' ' ∨ next = ':' := by
  have ends : ∀ char, isSelectorChar char = false ↔ char = '\n' ∨ char = ' ' ∨ char = ':' := by
    intro char
    rw [← Bool.not_eq_true, isSelectorChar_iff]
    simp only [ne_eq, not_and_or, not_not]
  constructor
  · intro stops next found
    exact (ends next).mp (stops next found)
  · intro ended next found
    exact (ends next).mpr (ended next found)

theorem isWebTag_selector {word selector after : List Char}
    (tag : TagWord.ofName? word = some .web)
    (selects : ∀ char ∈ selector, isSelectorChar char = true) (stops : Stops isSelectorChar after) :
    IsWebTag (word ++ ':' :: ':' :: selector) after := by
  rcases ofName?_eq_some_iff.mp tag with ⟨capitals, listed, spelled⟩
  obtain rfl := List.mem_singleton.mp listed
  refine ⟨word, selector, spelled, rfl, ?_, stops_isSelectorChar_iff.mp stops⟩
  intro char member
  exact isSelectorChar_iff.mp (selects char member)

theorem IsWebTag.stands {raw after : List Char} (tag : IsWebTag raw after) :
    Stands (verbatim .webParam raw) after := by
  rcases tag with ⟨word, selector, spelled, rfl, selects, ended⟩
  have named : TagWord.ofName? word = some .web :=
    ofName?_eq_some_iff.mpr ⟨_, List.mem_singleton_self _, spelled⟩
  apply Stands.web (isWord_of_ofName? named) named
  · intro char member
    exact isSelectorChar_iff.mpr (selects char member)
  · exact stops_isSelectorChar_iff.mpr ended

theorem isQuantumTag_line {word line after : List Char}
    (tag : TagWord.ofName? word = some .quantum) (oneLine : ∀ char ∈ line, (char != '\n') = true)
    (stops : Stops (· != '\n') after) : IsQuantumTag (word ++ ':' :: ':' :: line) after := by
  rcases ofName?_eq_some_iff.mp tag with ⟨capitals, listed, spelled⟩
  obtain rfl := List.mem_singleton.mp listed
  exact ⟨word, line, spelled, rfl, not_mem_iff_bne.mpr oneLine, atLineEnd_iff_stops.mpr stops⟩

theorem IsQuantumTag.stands {raw after : List Char} (tag : IsQuantumTag raw after) :
    Stands (verbatim .quantumParam raw) after := by
  rcases tag with ⟨word, line, spelled, rfl, oneLine, ended⟩
  have named : TagWord.ofName? word = some .quantum :=
    ofName?_eq_some_iff.mpr ⟨_, List.mem_singleton_self _, spelled⟩
  exact .quantum (isWord_of_ofName? named) named (not_mem_iff_bne.mp oneLine)
    (atLineEnd_iff_stops.mp ended)

/-! ## Identifiers -/

theorem isIdentifier_of_isWord {word after : List Char} (isWord : IsWord word)
    (stops : Stops isNameChar after)
    (unmarked : ∀ tag, TagWord.ofName? word = some tag → ¬tag.marker <+: after) :
    IsIdentifier word after := by
  refine ⟨?_, isWord.named, stops, unmarked_iff.mp unmarked⟩
  rcases isWord.starts with ⟨first, rest, rfl, starts⟩
  exact ⟨first, rfl, startsWord_iff.mp starts⟩

theorem IsIdentifier.stands {raw after : List Char} (identifier : IsIdentifier raw after) :
    Stands (verbatim .identifier raw) after := by
  rcases identifier with ⟨⟨first, found, starts⟩, named, stops, unreserved⟩
  rcases List.head?_eq_some_iff.mp found with ⟨rest, rfl⟩
  have isWord : IsWord (first :: rest) := ⟨⟨first, rest, rfl, startsWord_iff.mpr starts⟩, named⟩
  exact .identifier isWord stops (unmarked_iff.mpr unreserved)

end Lexeme
end Ritual
