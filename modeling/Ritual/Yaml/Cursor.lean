import Ritual.Source.Bytes

namespace Ritual
namespace Yaml

/-!
# A place in a document

Five characters break lines, and a carriage return with a line feed is one
break.  Every way of moving on keeps the line and the column in step with the
characters passed.
-/

/-- Whether the character breaks a line. -/
def isBreak (char : Char) : Bool :=
  char == '\n' || char == '\r' || char == '\u0085' || char == '\u2028' || char == '\u2029'

/-- Whether the character is a space or a tab. -/
def isBlank (char : Char) : Bool :=
  char == ' ' || char == '\t'

/-- Whether the character is a blank or breaks a line. -/
def isGap (char : Char) : Bool :=
  isBlank char || isBreak char

/-- The characters of anchors, handles and directives: ASCII letters and digits,
the underscore and the hyphen. -/
def isWordChar (char : Char) : Bool :=
  char.isAlphanum || char == '_' || char == '-'

/-- Whether a document may hold the character. -/
def isAllowed (char : Char) : Bool :=
  let code := char.toNat
  code == 0x09 || code == 0x0A || code == 0x0D || (0x20 ≤ code && code ≤ 0x7E) || code == 0x85 ||
    (0xA0 ≤ code && code ≤ 0xD7FF) || (0xE000 ≤ code && code ≤ 0xFFFD) || 0x10000 ≤ code

/-- The characters that remain, and how many bytes and lines have been passed, and
how many columns of the line. -/
structure Cursor where
  rest : List Char
  offset : Nat
  line : Nat
  column : Nat

namespace Cursor

/-- The place before the first character. -/
def start (chars : List Char) : Cursor :=
  ⟨chars, 0, 0, 0⟩

/-- Pass some characters of the current line. -/
def skip (cursor : Cursor) (count : Nat) : Cursor :=
  { cursor with
    rest := cursor.rest.drop count
    offset := cursor.offset + Source.byteLength (cursor.rest.take count)
    column := cursor.column + count }

/-- Pass a line break, if one is next. -/
def skipBreak (cursor : Cursor) : Cursor :=
  match cursor.rest with
  | '\r' :: '\n' :: rest => ⟨rest, cursor.offset + 2, cursor.line + 1, 0⟩
  | char :: rest =>
    if isBreak char then ⟨rest, cursor.offset + char.utf8Size, cursor.line + 1, 0⟩ else cursor
  | [] => cursor

/-- The characters that the next line break contributes to a text.  Every break
counts as a line feed but the line and paragraph separators, which stand for
themselves. -/
def breakText (cursor : Cursor) : List Char :=
  match cursor.rest with
  | char :: _ =>
    if char = '\u2028' ∨ char = '\u2029' then [char]
    else if isBreak char then ['\n'] else []
  | [] => []

/-- The characters of the longest run with a property. -/
def run (cursor : Cursor) (property : Char → Bool) : List Char :=
  cursor.rest.takeWhile property

/-- Pass the longest run of characters with a property, none of which breaks a
line. -/
def skipRun (cursor : Cursor) (property : Char → Bool) : Cursor :=
  cursor.skip (cursor.run property).length

/-- The character at a distance. -/
def peek (cursor : Cursor) (distance : Nat) : Option Char :=
  cursor.rest[distance]?

/-- Whether a blank, a line break or the end is at a distance. -/
def gapAt (cursor : Cursor) (distance : Nat) : Bool :=
  match cursor.peek distance with
  | some char => isGap char
  | none => true

/-- Whether a line break or the end is next. -/
def atLineEnd (cursor : Cursor) : Bool :=
  match cursor.rest with
  | char :: _ => isBreak char
  | [] => true

/-- Whether the marker of a document's start or end is next. -/
def atDocumentMarker (cursor : Cursor) : Bool :=
  cursor.column == 0 &&
    (cursor.rest.take 3 == ['-', '-', '-'] || cursor.rest.take 3 == ['.', '.', '.']) &&
    cursor.gapAt 3

end Cursor
end Yaml
end Ritual
