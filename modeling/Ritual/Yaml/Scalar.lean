import Ritual.Yaml.Cursor
import Ritual.Yaml.Refusal

namespace Ritual
namespace Yaml

/-!
# The texts of scalars

A scalar is plain, quoted or a block.  Line breaks inside a plain or quoted
scalar are folded: one break becomes a space, and of several the first is
dropped.  Each reader takes a bound on its steps, and the number of remaining
characters plus one is always enough.
-/

/-- What was read of a scalar and where it ends. -/
structure ScalarText where
  text : List Char
  cursor : Cursor

/-! ## Gaps -/

/-- The blanks and breaks between two parts of a flow scalar.  Blanks count only
before the first break. -/
structure Gap where
  broken : Bool
  blanks : List Char
  firstBreak : List Char
  laterBreaks : List Char

namespace Gap

/-- A gap in which nothing was read yet. -/
def empty : Gap := ⟨false, [], [], []⟩

/-- What the gap contributes to the text. -/
def folded (gap : Gap) : List Char :=
  if !gap.broken then gap.blanks
  else if gap.firstBreak = ['\n'] then
    if gap.laterBreaks.isEmpty then [' '] else gap.laterBreaks
  else gap.firstBreak ++ gap.laterBreaks

/-- Read a gap to its end.  A tab left of the given column is refused behind a
break. -/
def read (indentation : Int) : Nat → Gap → Cursor → Except Refusal (Gap × Cursor)
  | 0, gap, cursor => .ok (gap, cursor)
  | steps + 1, gap, cursor =>
    match cursor.rest with
    | [] => .ok (gap, cursor)
    | char :: _ =>
      if isBlank char then
        if gap.broken && decide ((cursor.column : Int) < indentation) && char == '\t' then
          .error (.unexpectedText (cursor.line + 1))
        else
          let gap := if gap.broken then gap else { gap with blanks := gap.blanks ++ [char] }
          read indentation steps gap (cursor.skip 1)
      else if isBreak char then
        let gap :=
          if gap.broken then { gap with laterBreaks := gap.laterBreaks ++ cursor.breakText }
          else { gap with broken := true, blanks := [], firstBreak := cursor.breakText }
        read indentation steps gap cursor.skipBreak
      else .ok (gap, cursor)

end Gap

/-! ## Quoted scalars -/

/-- The value of a run of hexadecimal digits, if all are. -/
def hexValue? (digits : List Char) : Option Nat :=
  digits.foldl (fun value digit =>
    value.bind fun sum =>
      if '0' ≤ digit ∧ digit ≤ '9' then some (sum * 16 + (digit.toNat - '0'.toNat))
      else if 'a' ≤ digit ∧ digit ≤ 'f' then some (sum * 16 + (digit.toNat - 'a'.toNat + 10))
      else if 'A' ≤ digit ∧ digit ≤ 'F' then some (sum * 16 + (digit.toNat - 'A'.toNat + 10))
      else none) (some 0)

/-- The characters that an escape of one letter stands for. -/
def simpleEscape? : Char → Option Char
  | '0' => some '\x00'
  | 'a' => some '\x07'
  | 'b' => some '\x08'
  | 't' => some '\t'
  | '\t' => some '\t'
  | 'n' => some '\n'
  | 'v' => some '\x0b'
  | 'f' => some '\x0c'
  | 'r' => some '\r'
  | 'e' => some '\x1b'
  | ' ' => some ' '
  | '"' => some '"'
  | '/' => some '/'
  | '\\' => some '\\'
  | 'N' => some '\u0085'
  | '_' => some '\u00a0'
  | 'L' => some '\u2028'
  | 'P' => some '\u2029'
  | _ => none

/-- The number of hexadecimal digits behind an escape by code point. -/
def codeLength? : Char → Option Nat
  | 'x' => some 2
  | 'u' => some 4
  | 'U' => some 8
  | _ => none

/-- The character of an escape and the number of characters that it takes, with
the backslash. -/
def escape? (letter : Char) (after : List Char) : Option (Char × Nat) :=
  match simpleEscape? letter with
  | some char => some (char, 2)
  | none => do
    let length ← codeLength? letter
    let digits := after.take length
    let code ← if digits.length = length then hexValue? digits else none
    if code.isValidChar then some (Char.ofNat code, length + 2) else none

/-- A part of a quoted scalar without gaps: its text, where it stops, and
whether an escaped line break ended it. -/
structure QuotedRun where
  text : List Char
  cursor : Cursor
  escapedBreak : Bool

/-- Read a quoted scalar up to a gap or its closing quote.  The text read so far
is given in reverse order. -/
def quotedRun (quote : Char) : Nat → List Char → Cursor → Except Refusal QuotedRun
  | 0, text, cursor => .ok ⟨text, cursor, false⟩
  | steps + 1, text, cursor =>
    match cursor.rest with
    | [] => .ok ⟨text, cursor, false⟩
    | char :: after =>
      if isGap char then .ok ⟨text, cursor, false⟩
      else if quote = '\'' ∧ char = '\'' ∧ after.head? = some '\'' then
        quotedRun quote steps ('\'' :: text) (cursor.skip 2)
      else if char = quote then .ok ⟨text, cursor, false⟩
      else if quote = '"' ∧ char = '\\' then
        match after with
        | [] => .error (.unexpectedText (cursor.line + 1))
        | letter :: further =>
          if isBreak letter then .ok ⟨text, (cursor.skip 1).skipBreak, true⟩
          else match escape? letter further with
            | some (escaped, length) =>
              quotedRun quote steps (escaped :: text) (cursor.skip length)
            | none => .error (.unexpectedText (cursor.line + 1))
      else quotedRun quote steps (char :: text) (cursor.skip 1)

/-- Read a quoted scalar behind its opening quote.  The text read so far is
given in reverse order. -/
def quotedRest (quote : Char) : Nat → List Char → Cursor → Except Refusal ScalarText
  | 0, _, cursor => .error (.unexpectedText (cursor.line + 1))
  | steps + 1, text, cursor =>
    if cursor.atDocumentMarker || cursor.rest.isEmpty then
      .error (.unexpectedText (cursor.line + 1))
    else do
      let part ← quotedRun quote (cursor.rest.length + 1) text cursor
      if part.cursor.rest.head? = some quote then
        .ok ⟨part.text.reverse, part.cursor.skip 1⟩
      else
        let (gap, next) ← Gap.read (-1) (part.cursor.rest.length + 1)
          { Gap.empty with broken := part.escapedBreak } part.cursor
        quotedRest quote steps (gap.folded.reverse ++ part.text) next

/-- Read a quoted scalar from its opening quote on. -/
def quotedScalar (quote : Char) (cursor : Cursor) : Except Refusal ScalarText :=
  quotedRest quote (cursor.rest.length + 1) [] (cursor.skip 1)

/-! ## Plain scalars -/

/-- The characters that end a plain scalar inside brackets or braces. -/
def isFlowIndicator (char : Char) : Bool :=
  char == ',' || char == '[' || char == ']' || char == '\x7b' || char == '\x7d'

/-- Read a plain scalar up to a gap or to what ends it.  Inside a flow
collection a colon right before a flow indicator is refused. -/
def plainRun (inFlow : Bool) : Nat → List Char → Cursor → Except Refusal (List Char × Cursor)
  | 0, text, cursor => .ok (text, cursor)
  | steps + 1, text, cursor =>
    match cursor.rest with
    | [] => .ok (text, cursor)
    | char :: after =>
      if isGap char then .ok (text, cursor)
      else if inFlow && char == ':' &&
          (after.head?.any fun next => isFlowIndicator next || next == '?') then
        .error (.unexpectedText (cursor.line + 1))
      else if (char == ':' && cursor.gapAt 1) || (inFlow && isFlowIndicator char) then
        .ok (text, cursor)
      else plainRun inFlow steps (char :: text) (cursor.skip 1)

/-- A plain scalar with the break behind it, if there is one. -/
structure PlainText where
  text : List Char
  cursor : Cursor
  endsBroken : Bool

/-- Read a plain scalar on.  The gap before the next part counts only if there
is a next part. -/
def plainRest (inFlow : Bool) (indentation : Int) :
    Nat → List Char → Gap → Cursor → Except Refusal PlainText
  | 0, text, gap, cursor => .ok ⟨text.reverse, cursor, gap.broken⟩
  | steps + 1, text, gap, cursor =>
    if cursor.atDocumentMarker || cursor.rest.head? == some '#' then
      .ok ⟨text.reverse, cursor, gap.broken⟩
    else do
      let (part, afterPart) ← plainRun inFlow (cursor.rest.length + 1) [] cursor
      let text := if part.isEmpty then text else part ++ (gap.folded.reverse ++ text)
      let gap := if part.isEmpty then gap else Gap.empty
      if afterPart.rest.head?.any isGap then
        let (gap, next) ← Gap.read indentation (afterPart.rest.length + 1) gap afterPart
        if !inFlow && decide ((next.column : Int) < indentation) then
          .ok ⟨text.reverse, next, gap.broken⟩
        else plainRest inFlow indentation steps text gap next
      else .ok ⟨text.reverse, afterPart, gap.broken⟩

/-- Read a plain scalar whose lines are indented at least as far as given. -/
def plainScalar (inFlow : Bool) (indentation : Int) (cursor : Cursor) :
    Except Refusal PlainText :=
  plainRest inFlow indentation (cursor.rest.length + 1) [] Gap.empty cursor

/-! ## Block scalars -/

/-- What becomes of the line breaks at the end of a block scalar. -/
inductive Chomping where
  | strip
  | clip
  | keep
deriving DecidableEq

/-- Empty lines of a block scalar, and the indentation that was found. -/
structure BlockBreaks where
  breaks : List Char
  cursor : Cursor
  indentation : Nat

/-- Read empty lines and the indentation of the next line.  An indentation of
zero stands for one that is still to be found, as the deepest one so far. -/
def blockBreaks (indentation : Nat) : Nat → Nat → List Char → Cursor →
    Except Refusal (List Char × Cursor × Nat)
  | 0, deepest, breaks, cursor => .ok (breaks, cursor, deepest)
  | steps + 1, deepest, breaks, cursor =>
    let spaces := (cursor.run (· == ' ')).length
    let wanted := if indentation = 0 then spaces else min spaces (indentation - cursor.column)
    let indented := cursor.skip wanted
    let deepest := max deepest indented.column
    if (indentation = 0 ∨ indented.column < indentation) ∧ indented.rest.head? = some '\t' then
      .error (.unexpectedText (indented.line + 1))
    else if indented.rest.head?.any isBreak then
      blockBreaks indentation steps deepest (breaks ++ indented.breakText) indented.skipBreak
    else .ok (breaks, indented, deepest)

/-- Read empty lines, and fix the indentation if it is still to be found: at
least one, and deeper than the surrounding collection. -/
def blockIndentation (outer : Int) (indentation : Nat) (cursor : Cursor) :
    Except Refusal BlockBreaks := do
  let (breaks, next, deepest) ← blockBreaks indentation (cursor.rest.length + 1) 0 [] cursor
  let found := if indentation = 0 then max (max deepest (outer + 1).toNat) 1 else indentation
  pure ⟨breaks, next, found⟩

/-- The lines of a block scalar read so far. -/
structure BlockLines where
  text : List Char
  /-- The break behind the last line. -/
  leadingBreak : List Char
  /-- The empty lines behind that break. -/
  emptyLines : List Char
  /-- Whether the last line began with a blank. -/
  startedBlank : Bool

/-- Read the lines of a block scalar.  In a folded one, a break between two
lines that begin with no blank becomes a space, or vanishes before empty
lines. -/
def blockLines (outer : Int) (folded : Bool) (indentation : Nat) :
    Nat → BlockLines → Cursor → Except Refusal (BlockLines × Cursor)
  | 0, lines, cursor => .ok (lines, cursor)
  | steps + 1, lines, cursor =>
    if cursor.column ≠ indentation ∨ cursor.rest.isEmpty then .ok (lines, cursor)
    else do
      let beginsBlank := cursor.rest.head?.any isBlank
      let joint :=
        if folded && lines.leadingBreak == ['\n'] && !lines.startedBlank && !beginsBlank then
          if lines.emptyLines.isEmpty then [' '] else []
        else lines.leadingBreak
      let content := cursor.run fun char => !isBreak char
      let afterLine := cursor.skip content.length
      let found ← blockIndentation outer indentation afterLine.skipBreak
      blockLines outer folded indentation steps
        { text := lines.text ++ joint ++ lines.emptyLines ++ content
          leadingBreak := afterLine.breakText
          emptyLines := found.breaks
          startedBlank := beginsBlank }
        found.cursor

/-- The header of a block scalar: its chomping, its indentation if given, and
the number of characters. -/
def blockHeader? : List Char → Option (Chomping × Nat × Nat)
  | sign :: digit :: _ =>
    match chomping? sign, digit? digit with
    | some _, some 0 => none
    | some chomping, some count => some (chomping, count, 2)
    | some chomping, none => some (chomping, 0, 1)
    | none, _ =>
      match digit? sign, chomping? digit with
      | some 0, _ => none
      | some count, some chomping => some (chomping, count, 2)
      | some count, none => some (.clip, count, 1)
      | none, _ => some (.clip, 0, 0)
  | [single] =>
    match chomping? single, digit? single with
    | some chomping, _ => some (chomping, 0, 1)
    | none, some 0 => none
    | none, some count => some (.clip, count, 1)
    | none, none => some (.clip, 0, 0)
  | [] => some (.clip, 0, 0)
where
  /-- The chomping that a sign gives. -/
  chomping? : Char → Option Chomping
    | '+' => some .keep
    | '-' => some .strip
    | _ => none
  /-- The value of a decimal digit. -/
  digit? (char : Char) : Option Nat :=
    if '0' ≤ char ∧ char ≤ '9' then some (char.toNat - '0'.toNat) else none

/-- Pass blanks and a comment up to the end of the line. -/
def skipToLineEnd (cursor : Cursor) : Except Refusal Cursor :=
  let afterBlanks := cursor.skipRun isBlank
  let afterComment :=
    if afterBlanks.rest.head? = some '#' then afterBlanks.skipRun fun char => !isBreak char
    else afterBlanks
  if afterComment.atLineEnd then .ok afterComment
  else .error (.unexpectedText (afterComment.line + 1))

/-- Read a block scalar from its indicator on, inside a collection with the
given indentation. -/
def blockScalar (folded : Bool) (outer : Int) (cursor : Cursor) : Except Refusal ScalarText := do
  let afterIndicator := cursor.skip 1
  match blockHeader? afterIndicator.rest with
  | none => .error (.unexpectedText (cursor.line + 1))
  | some (chomping, increment, length) =>
    let lineEnd ← skipToLineEnd (afterIndicator.skip length)
    let given := if increment = 0 then 0 else (max outer 0).toNat + increment
    let found ← blockIndentation outer given lineEnd.skipBreak
    let (lines, next) ← blockLines outer folded found.indentation (cursor.rest.length + 1)
      ⟨[], [], found.breaks, false⟩ found.cursor
    let ending :=
      match chomping with
      | .strip => []
      | .clip => lines.leadingBreak
      | .keep => lines.leadingBreak ++ lines.emptyLines
    pure ⟨lines.text ++ ending, next⟩

end Yaml
end Ritual
