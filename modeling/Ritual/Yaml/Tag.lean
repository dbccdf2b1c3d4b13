import Ritual.Yaml.Scalar

namespace Ritual
namespace Yaml

/-!
# Tags

A tag is written out between angle brackets, or it is a handle with an ending.
A handle stands for a lead, and lead and ending together are the tag written
out.  Escapes may spell any bytes that have the outline of UTF-8, so leads and
endings are bytes, and a zero byte ends what counts of them.  Of tags written
out four core types are told apart, and tags that begin with an exclamation
mark belong to the document.  What a tag demands of its node is not decided
here.
-/

/-! ## Tags as they are written -/

/-- The byte that an escape spells, and the rest. -/
def escapedByte? : List Char → Option (UInt8 × List Char)
  | '%' :: high :: low :: rest => (hexValue? [high, low]).map fun value => (value.toUInt8, rest)
  | _ => none

/-- The number of bytes of the character that a byte begins. -/
def bytesFrom? (first : UInt8) : Option Nat :=
  if first < 0x80 then some 1
  else if 0xC0 ≤ first ∧ first < 0xE0 then some 2
  else if 0xE0 ≤ first ∧ first < 0xF0 then some 3
  else if 0xF0 ≤ first ∧ first < 0xF8 then some 4
  else none

/-- The given number of escaped bytes, all of which continue a character. -/
def continuations? : Nat → List Char → Option (List UInt8)
  | 0, _ => some []
  | count + 1, chars => do
    let (byte, rest) ← escapedByte? chars
    if 0x80 ≤ byte ∧ byte < 0xC0 then return byte :: (← continuations? count rest)
    else none

/-- The bytes of the character that escapes spell.  Only their outline is
examined, so they need not be valid. -/
def escapedChar? (chars : List Char) : Option (List UInt8) := do
  let (first, rest) ← escapedByte? chars
  return first :: (← continuations? ((← bytesFrom? first) - 1) rest)

/-- The characters of a tag that stand for themselves, all of them ASCII.  A tag
written out and a lead may hold flow indicators too. -/
def isTagChar (writtenOut : Bool) (char : Char) : Bool :=
  isWordChar char || [';', '/', '?', ':', '@', '&', '=', '+', '$', '.', '!', '~', '*', '\'', '(',
    ')'].contains char || (writtenOut && [',', '[', ']'].contains char)

/-- Read the bytes of a tag.  The bytes read so far are given in order. -/
def tagBytes? (writtenOut : Bool) : Nat → List UInt8 → Cursor → Option (List UInt8 × Cursor)
  | 0, bytes, cursor => some (bytes, cursor)
  | steps + 1, bytes, cursor =>
    match cursor.rest with
    | '%' :: _ => do
      let escaped ← escapedChar? cursor.rest
      tagBytes? writtenOut steps (bytes ++ escaped) (cursor.skip (3 * escaped.length))
    | char :: _ =>
      if isTagChar writtenOut char then
        tagBytes? writtenOut steps (bytes ++ [char.toNat.toUInt8]) (cursor.skip 1)
      else some (bytes, cursor)
    | [] => some (bytes, cursor)

/-- What counts of some bytes: those before the first zero. -/
def beforeZero (bytes : List UInt8) : List UInt8 :=
  bytes.takeWhile (· != 0)

/-- A handle: an exclamation mark, word characters and perhaps another
exclamation mark.  In a directive the second mark is needed behind word
characters. -/
def tagHandle? (inDirective : Bool) (cursor : Cursor) : Option (List Char × Cursor) :=
  match cursor.rest with
  | '!' :: _ =>
    let word := (cursor.skip 1).run isWordChar
    let afterWord := cursor.skip (word.length + 1)
    if afterWord.rest.head? = some '!' then some ('!' :: (word ++ ['!']), afterWord.skip 1)
    else if inDirective && !word.isEmpty then none
    else some ('!' :: word, afterWord)
  | _ => none

/-- A tag with its handle and its ending.  A tag that is written out has an
empty handle, and a mere exclamation mark counts as written out. -/
def writtenTag? (cursor : Cursor) : Option (String × List UInt8 × Cursor) :=
  let steps := cursor.rest.length + 1
  if cursor.peek 1 = some '<' then do
    let (bytes, next) ← tagBytes? true steps [] (cursor.skip 2)
    if bytes.isEmpty || next.rest.head? != some '>' then none
    else some ("", beforeZero bytes, next.skip 1)
  else do
    let (handle, afterHandle) ← tagHandle? false cursor
    if 2 ≤ handle.length && handle.getLast? == some '!' then
      let (bytes, next) ← tagBytes? false steps [] afterHandle
      if bytes.isEmpty then none
      else some (String.ofList handle, beforeZero bytes, next)
    else
      let (bytes, next) ←
        tagBytes? false steps (handle.tail.map fun char => char.toNat.toUInt8) afterHandle
      let ending := beforeZero bytes
      if ending.isEmpty then some ("", [0x21], next)
      else some ("!", ending, next)

/-! ## Tags written out -/

/-- A tag by what it means. -/
inductive Tag where
  | bool
  | integer
  | float
  | null
  /-- A tag of the document's own. -/
  | own (name : String)
  /-- A tag of the document's own that is no text. -/
  | unreadable
  /-- Any other tag, which asks for nothing. -/
  | other
deriving DecidableEq, Repr

namespace Tag

/-- The bytes of the tag of a core type. -/
def core (type : String) : List UInt8 :=
  ("tag:yaml.org,2002:" ++ type).toUTF8.toList

/-- Drop an exclamation mark at the beginning, unless nothing else is there. -/
def withoutMark : List UInt8 → List UInt8
  | [] => []
  | [only] => [only]
  | first :: rest => if first = 0x21 then rest else first :: rest

/-- The meaning of a tag written out.  Tags of the document's own are the same
if they differ by a second exclamation mark only. -/
def ofBytes (bytes : List UInt8) : Tag :=
  if bytes = core "bool" then bool
  else if bytes = core "int" then integer
  else if bytes = core "float" then float
  else if bytes = core "null" then null
  else if bytes.head? = some 0x21 then
    match String.fromUTF8? (ByteArray.mk (withoutMark (withoutMark bytes)).toArray) with
    | some name => own name
    | none => unreadable
  else other

end Tag
end Yaml
end Ritual
