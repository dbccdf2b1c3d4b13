import Ritual.Log
import Ritual.Source.Bytes
import Ritual.Text.Alphabetic
import Ritual.Text.Numeric
import Ritual.Text.WhiteSpace

namespace Ritual
namespace Log

/-!
# Which events are written

A filter is a list of directives.  A directive admits events up to a level, of
all parts of the program or of those whose name begins in a given way, with or
without a certain value.  Of the directives that are about an event the most
specific one decides, and an event that none is about is not written.  A
directive may also be about a span, a stretch of a run with a name; no event
here stands in one.
-/

/-- A directive of a filter. -/
structure Directive where
  /-- How the names of the parts begin that it is about, or nothing for all. -/
  lead : Option String
  /-- The span that it is about, or nothing for events. -/
  span : Option String
  /-- The value that an event must have by name, or nothing if it need not. -/
  value : Option String
  /-- The highest level that it admits, or nothing if it admits none. -/
  level : Option Level
deriving DecidableEq, Repr

namespace Directive

/-! ## What a directive decides -/

/-- Whether the directive is about an event.  The message is a value too. -/
def isAbout (directive : Directive) (event : Event) : Bool :=
  directive.span.isNone &&
    directive.lead.all (fun lead => lead.toList.isPrefixOf event.source.toList) &&
    directive.value.all fun name => ("message" :: event.fields.map Prod.fst).contains name

/-- Whether the directive admits a level. -/
def admits (directive : Directive) (level : Level) : Bool :=
  directive.level.any fun highest => level.rank ≤ highest.rank

/-- How specific the directive is about the parts of the program. -/
def weight (directive : Directive) : Nat :=
  match directive.lead with
  | some lead => lead.utf8ByteSize + 1
  | none => 0

/-- Whether a directive decides rather than an earlier one.  The longer lead
counts first, then a value, then the greater name of it. -/
def overrules (directive other : Directive) : Bool :=
  if directive.weight = other.weight then
    match other.value, directive.value with
    | none, _ => true
    | some _, none => false
    | some earlier, some later => !decide (later < earlier)
  else decide (other.weight < directive.weight)

/-! ## Reading a directive -/

/-- The number of a level by its digits, which a plus sign may precede. -/
def number? (chars : List Char) : Option Nat :=
  let digits := if chars.head? = some '+' then chars.tail else chars
  if digits.isEmpty || !digits.all Char.isDigit then none
  else some (digits.foldl (fun value digit => value * 10 + (digit.toNat - '0'.toNat)) 0)

/-- A level by its name in any ASCII case or by its number, with `off` and zero
for no level. -/
def level? (text : String) : Option (Option Level) :=
  let upper := String.ofList (text.toList.map Char.toUpper)
  let number := number? text.toList
  if upper = "OFF" ∨ number = some 0 then some none
  else (Level.all.find? fun level => upper = level.name ∨ number = some level.rank).map some

/-- A level as a directive ends with it.  Without one the directive admits every
level. -/
def endingLevel? (chars : List Char) : Option (Option Level) :=
  if chars.isEmpty then some (some .trace) else level? (String.ofList chars)

/-- Whether a directive may begin with the character, the bracket of a span
apart. -/
def mayBegin (char : Char) : Bool :=
  char == '-' || char == ':' || char == '_' || Text.isAlphabetic char || Text.isNumeric char

/-- The characters without white space around them. -/
def trimmed (chars : List Char) : List Char :=
  ((chars.dropWhile Text.isWhiteSpace).reverse.dropWhile Text.isWhiteSpace).reverse

/-- A part of a text by its offsets. -/
def cut? (text : String) (start stop : Nat) : Option String :=
  (Source.slice? text.toList start stop).map String.ofList

/-- Read what may follow a lead or a bracket, from the given offset on: nothing,
or an equals sign with a level. -/
def afterSubject? (text : String) (offset : Nat) (chars : List Char) :
    Option (Option Level) :=
  match chars with
  | [] => some (some .trace)
  | '=' :: _ => do
    let (_, level) ← Source.splitBytes (offset + 1) text.toList
    endingLevel? level
  | _ => none

/-- Read a span and a value behind an opening bracket, from the given offset
on. -/
def bracketed? (text : String) (lead : Option String) (offset : Nat) (chars : List Char) :
    Option Directive := do
  let spanChars := chars.takeWhile fun char => char != ']' && char != '\x7b'
  let spanEnd := offset + Source.byteLength spanChars
  let span ← cut? text offset spanEnd
  match chars.drop spanChars.length with
  | ']' :: rest =>
    return ⟨lead, some span, none, ← afterSubject? text (spanEnd + 1) rest⟩
  | _ :: rest =>
    let valueChars := rest.takeWhile (· != '\x7d')
    let valueEnd := spanEnd + 1 + Source.byteLength valueChars
    let value ← cut? text (spanEnd + 1) valueEnd
    match rest.drop valueChars.length with
    | '\x7d' :: ']' :: further =>
      if value.isEmpty then none
      else
        return ⟨lead, if span.isEmpty then none else some span, some value,
          ← afterSubject? text (valueEnd + 2) further⟩
    | _ => none
  | [] => none

/-- The directive that a text spells: a level, or the beginning of a name with a
span, a value and a level behind it as far as they are given.  White space
around it is passed over when its parts are looked for, but their offsets are
taken into the text as it is. -/
def ofString? (text : String) : Option Directive := do
  let chars := trimmed text.toList
  let first ← chars.head?
  if first = '[' then bracketed? text none 1 chars.tail
  else if !mayBegin first then none
  else
    let leadChars := chars.takeWhile fun char => char != '=' && char != '['
    let leadEnd := Source.byteLength leadChars
    match chars.drop leadChars.length with
    | [] =>
      match level? text with
      | some level => return ⟨none, none, none, level⟩
      | none => return ⟨some text, none, none, some .trace⟩
    | '[' :: rest => bracketed? text (some (← cut? text 0 leadEnd)) (leadEnd + 1) rest
    | rest =>
      return ⟨some (← cut? text 0 leadEnd), none, none, ← afterSubject? text leadEnd rest⟩

end Directive

/-- The directives that decide which events are written. -/
structure Filter where
  directives : List Directive
deriving DecidableEq, Repr

namespace Filter

/-- The filter of a single level. -/
def upTo (level : Level) : Filter :=
  ⟨[⟨none, none, none, some level⟩]⟩

/-- The directive that decides about an event: the most specific, and the last
of several that are. -/
def deciding? (filter : Filter) (event : Event) : Option Directive :=
  (filter.directives.filter fun directive => directive.isAbout event).foldl
    (fun best directive =>
      match best with
      | some other => if directive.overrules other then some directive else best
      | none => some directive) none

/-- Whether the event is written. -/
def admits (filter : Filter) (event : Event) : Bool :=
  (filter.deciding? event).any fun directive => directive.admits event.level

/-- The filter that a text spells, with directives between commas.  No
directives stand for errors alone. -/
def ofString? (text : String) : Option Filter := do
  let parts := (text.splitOn ",").filter (!·.isEmpty)
  if parts.isEmpty then return upTo .error
  return ⟨← parts.mapM Directive.ofString?⟩

/-- The filter of a run.  A text that spells none counts as no text: then
warnings are written, and errors alone in a quiet run. -/
def ofRun (quiet : Bool) (text : Option String) : Filter :=
  match text.bind ofString? with
  | some filter => filter
  | none => upTo (if quiet then .error else .warn)

end Filter
end Log
end Ritual
