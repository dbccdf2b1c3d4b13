import Ritual.Yaml.Tag

namespace Ritual
namespace Yaml

/-!
# The tokens of a document

Reading tokens decides where keys are.  A key of the short form is recognised
only by the colon behind it, on the same line and within 1024 bytes, so the
marks of a key and of the mapping that it opens are put in front of tokens
that were read before.  Indentation opens and closes block collections; inside
brackets and braces it does not count.
-/

/-- A token of a document. -/
inductive Token where
  | versionDirective (major minor : Nat)
  | tagDirective (handle : String) (lead : List UInt8)
  | documentStart
  | documentEnd
  | blockSequenceStart
  | blockMappingStart
  | blockEnd
  | flowSequenceStart
  | flowSequenceEnd
  | flowMappingStart
  | flowMappingEnd
  | blockEntry
  | flowEntry
  | key
  | value
  | alias (name : String)
  | anchor (name : String)
  | tag (handle : String) (ending : List UInt8)
  | scalar (plain : Bool) (text : String)
deriving DecidableEq, Repr

/-- A place at which a short key may have begun. -/
structure ShortKey where
  /-- No other token may begin there, since the indentation asks for a key. -/
  required : Bool
  /-- The number of tokens before it. -/
  tokensBefore : Nat
  offset : Nat
  line : Nat
  column : Nat

/-- The state of reading tokens. -/
structure TokenReader where
  cursor : Cursor
  /-- The tokens read, the last one first. -/
  reversed : List Token
  /-- The indentation of the innermost block collection, and minus one outside
  of all. -/
  indentation : Int
  /-- The indentations around it. -/
  outer : List Int
  /-- Whether a short key may begin at the next token. -/
  keyAllowed : Bool
  /-- The possible short key of the innermost flow collection or of the block
  structure. -/
  pending : Option ShortKey
  /-- Those of the collections around, one for each. -/
  outerPending : List (Option ShortKey)

namespace TokenReader

/-- The state before the first token. -/
def start (chars : List Char) : TokenReader :=
  ⟨Cursor.start chars, [], -1, [], true, none, []⟩

/-- Whether the next token stands inside brackets or braces. -/
def inFlow (reader : TokenReader) : Bool :=
  !reader.outerPending.isEmpty

/-- The refusal of the text at the current place. -/
def refuse (reader : TokenReader) {Result : Type} : Except Refusal Result :=
  .error (.unexpectedText (reader.cursor.line + 1))

/-- Add a token behind the others. -/
def push (reader : TokenReader) (token : Token) : TokenReader :=
  { reader with reversed := token :: reader.reversed }

/-- Add a token behind the given number of tokens. -/
def insertAfter (reader : TokenReader) (count : Nat) (token : Token) : TokenReader :=
  let later := reader.reversed.length - count
  { reader with reversed := reader.reversed.take later ++ token :: reader.reversed.drop later }

/-- Pass some characters of the current line. -/
def skip (reader : TokenReader) (count : Nat) : TokenReader :=
  { reader with cursor := reader.cursor.skip count }

/-- Go on at another place. -/
def moveTo (reader : TokenReader) (cursor : Cursor) : TokenReader :=
  { reader with cursor := cursor }

/-! ## Possible keys -/

/-- Give up the possible key of the current level, which must not be required. -/
def dropKey (reader : TokenReader) : Except Refusal TokenReader :=
  match reader.pending with
  | some key => if key.required then reader.refuse else .ok { reader with pending := none }
  | none => .ok reader

/-- Note that a key may begin here, if it may. -/
def noteKey (reader : TokenReader) : Except Refusal TokenReader :=
  if reader.keyAllowed then do
    let reader ← reader.dropKey
    let cursor := reader.cursor
    pure { reader with
      pending := some
        { required := !reader.inFlow && decide (reader.indentation = (cursor.column : Int))
          tokensBefore := reader.reversed.length
          offset := cursor.offset
          line := cursor.line
          column := cursor.column } }
  else .ok reader

/-- Whether a possible key lies on another line or too far back. -/
def isStale (reader : TokenReader) (key : ShortKey) : Bool :=
  decide (key.line < reader.cursor.line) || decide (key.offset + 1024 < reader.cursor.offset)

/-- A possible key without what is stale. -/
def freshKey (reader : TokenReader) : Option ShortKey → Except Refusal (Option ShortKey)
  | some key =>
    if reader.isStale key then if key.required then reader.refuse else .ok none
    else .ok (some key)
  | none => .ok none

/-- Give up every possible key that is stale. -/
def dropStaleKeys (reader : TokenReader) : Except Refusal TokenReader := do
  let pending ← reader.freshKey reader.pending
  let outerPending ← reader.outerPending.mapM reader.freshKey
  pure { reader with pending := pending, outerPending := outerPending }

/-! ## Indentation -/

/-- Open a block collection at a column, if it is deeper than the current one.
Its token stands behind the given number of tokens. -/
def indent (reader : TokenReader) (column tokensBefore : Nat) (opening : Token) : TokenReader :=
  if reader.inFlow || decide ((column : Int) ≤ reader.indentation) then reader
  else
    { reader.insertAfter tokensBefore opening with
      indentation := column
      outer := reader.indentation :: reader.outer }

/-- Close the block collections that are deeper than a column, given those
around the innermost. -/
def unindentTo (column : Int) : List Int → TokenReader → TokenReader
  | [], reader => reader
  | around :: further, reader =>
    if column < reader.indentation then
      unindentTo column further
        { reader.push .blockEnd with indentation := around, outer := further }
    else reader

/-- Close the block collections that are deeper than a column. -/
def unindent (reader : TokenReader) (column : Int) : TokenReader :=
  if reader.inFlow then reader else unindentTo column reader.outer reader

/-! ## Between tokens -/

/-- Pass byte order marks, blanks, comments and line breaks.  A byte order mark
may begin any line and takes a column of it.  A tab is no blank where a short
key may begin.  A break in block structure allows a key. -/
def toNextToken : Nat → TokenReader → TokenReader
  | 0, reader => reader
  | steps + 1, reader =>
    let isSeparator (char : Char) : Bool :=
      char == ' ' || ((reader.inFlow || !reader.keyAllowed) && char == '\t')
    let marked := reader.cursor.column == 0 && reader.cursor.rest.head? == some '\uFEFF'
    let cursor := (if marked then reader.cursor.skip 1 else reader.cursor).skipRun isSeparator
    let cursor :=
      if cursor.rest.head? = some '#' then cursor.skipRun fun char => !isBreak char else cursor
    if cursor.rest.head?.any isBreak then
      toNextToken steps
        { reader with
          cursor := cursor.skipBreak
          keyAllowed := reader.keyAllowed || !reader.inFlow }
    else reader.moveTo cursor

/-! ## Directives -/

/-- A number of at most nine digits with the place behind it. -/
def versionNumber? (cursor : Cursor) : Option (Nat × Cursor) :=
  let digits := cursor.run Char.isDigit
  if digits.isEmpty || 9 < digits.length then none
  else some (digits.foldl (fun value digit => value * 10 + (digit.toNat - '0'.toNat)) 0,
    cursor.skip digits.length)

/-- A directive from its percent sign on, without the rest of its line. -/
def directive? (cursor : Cursor) : Option (Token × Cursor) := do
  let name := (cursor.skip 1).run isWordChar
  let afterName := cursor.skip (name.length + 1)
  if !afterName.gapAt 0 then none
  else
    let values := afterName.skipRun isBlank
    match String.ofList name with
    | "YAML" =>
      let (major, afterMajor) ← versionNumber? values
      if afterMajor.rest.head? != some '.' then none
      else
        let (minor, next) ← versionNumber? (afterMajor.skip 1)
        some (.versionDirective major minor, next)
    | "TAG" =>
      let (handle, afterHandle) ← tagHandle? true values
      if !(afterHandle.rest.head?.any isBlank) then none
      else
        let (bytes, next) ←
          tagBytes? true (cursor.rest.length + 1) [] (afterHandle.skipRun isBlank)
        if bytes.isEmpty || !next.gapAt 0 then none
        else some (.tagDirective (String.ofList handle) (beforeZero bytes), next)
    | _ => none

/-! ## One token -/

/-- Read a directive with the rest of its line. -/
def readDirective (reader : TokenReader) : Except Refusal TokenReader := do
  let reader ← (reader.unindent (-1)).dropKey
  match directive? reader.cursor with
  | some (token, next) =>
    let lineEnd ← skipToLineEnd next
    pure ({ reader with keyAllowed := false }.push token |>.moveTo lineEnd.skipBreak)
  | none => .error .badDirective

/-- Read the marker of a document's start or end. -/
def readMarker (token : Token) (reader : TokenReader) : Except Refusal TokenReader := do
  let reader ← (reader.unindent (-1)).dropKey
  pure ({ reader with keyAllowed := false }.push token |>.skip 3)

/-- Read an opening bracket or brace. -/
def openFlow (token : Token) (reader : TokenReader) : Except Refusal TokenReader := do
  let reader ← reader.noteKey
  pure ({ reader with
    keyAllowed := true
    pending := none
    outerPending := reader.pending :: reader.outerPending }.push token |>.skip 1)

/-- Read a closing bracket or brace. -/
def closeFlow (token : Token) (reader : TokenReader) : Except Refusal TokenReader := do
  let reader ← reader.dropKey
  let reader :=
    match reader.outerPending with
    | around :: further => { reader with pending := around, outerPending := further }
    | [] => reader
  pure ({ reader with keyAllowed := false }.push token |>.skip 1)

/-- Read a comma inside brackets or braces. -/
def readFlowEntry (reader : TokenReader) : Except Refusal TokenReader := do
  let reader ← reader.dropKey
  pure ({ reader with keyAllowed := true }.push .flowEntry |>.skip 1)

/-- Read the dash of a block sequence. -/
def readBlockEntry (reader : TokenReader) : Except Refusal TokenReader := do
  if !reader.inFlow && !reader.keyAllowed then reader.refuse
  else
    let reader ←
      (reader.indent reader.cursor.column reader.reversed.length .blockSequenceStart).dropKey
    pure ({ reader with keyAllowed := true }.push .blockEntry |>.skip 1)

/-- Read the question mark of a key. -/
def readKey (reader : TokenReader) : Except Refusal TokenReader := do
  if !reader.inFlow && !reader.keyAllowed then reader.refuse
  else
    let reader ←
      (reader.indent reader.cursor.column reader.reversed.length .blockMappingStart).dropKey
    pure ({ reader with keyAllowed := !reader.inFlow }.push .key |>.skip 1)

/-- Read the colon of a value.  A possible key before it becomes one. -/
def readValue (reader : TokenReader) : Except Refusal TokenReader :=
  match reader.pending with
  | some key =>
    let marked := (reader.insertAfter key.tokensBefore .key).indent key.column key.tokensBefore
      .blockMappingStart
    .ok ({ marked with pending := none, keyAllowed := false }.push .value |>.skip 1)
  | none =>
    if !reader.inFlow && !reader.keyAllowed then reader.refuse
    else
      let reader :=
        reader.indent reader.cursor.column reader.reversed.length .blockMappingStart
      .ok ({ reader with keyAllowed := !reader.inFlow }.push .value |>.skip 1)

/-- Read an anchor or an alias. -/
def readName (token : String → Token) (reader : TokenReader) : Except Refusal TokenReader := do
  let reader ← reader.noteKey
  let name := (reader.cursor.skip 1).run isWordChar
  let next := reader.cursor.skip (name.length + 1)
  let ends :=
    match next.rest with
    | char :: _ => isGap char || ['?', ':', ',', ']', '\x7d', '%', '@', '\x60'].contains char
    | [] => true
  if name.isEmpty || !ends then reader.refuse
  else
    pure ({ reader with keyAllowed := false }.push (token (String.ofList name)) |>.moveTo next)

/-- Read a tag. -/
def readTag (reader : TokenReader) : Except Refusal TokenReader := do
  let reader ← reader.noteKey
  match writtenTag? reader.cursor with
  | some (handle, ending, next) =>
    if next.gapAt 0 || (reader.inFlow && next.rest.head? == some ',') then
      pure ({ reader with keyAllowed := false }.push (.tag handle ending) |>.moveTo next)
    else reader.refuse
  | none => reader.refuse

/-- Read a block scalar. -/
def readBlockScalar (folded : Bool) (reader : TokenReader) : Except Refusal TokenReader := do
  let reader ← reader.dropKey
  let scalar ← blockScalar folded reader.indentation reader.cursor
  pure ({ reader with keyAllowed := true }.push (.scalar false (String.ofList scalar.text))
    |>.moveTo scalar.cursor)

/-- Read a quoted scalar. -/
def readQuoted (quote : Char) (reader : TokenReader) : Except Refusal TokenReader := do
  let reader ← reader.noteKey
  let scalar ← quotedScalar quote reader.cursor
  pure ({ reader with keyAllowed := false }.push (.scalar false (String.ofList scalar.text))
    |>.moveTo scalar.cursor)

/-- Read a plain scalar.  If a line break follows it, a key may begin next. -/
def readPlain (reader : TokenReader) : Except Refusal TokenReader := do
  let reader ← reader.noteKey
  let scalar ← plainScalar reader.inFlow (reader.indentation + 1) reader.cursor
  pure ({ reader with keyAllowed := scalar.endsBroken }.push
    (.scalar true (String.ofList scalar.text)) |>.moveTo scalar.cursor)

/-- The characters that begin no plain scalar, some of them only before a gap. -/
def isIndicator (char : Char) : Bool :=
  ['-', '?', ':', ',', '[', ']', '\x7b', '\x7d', '#', '&', '*', '!', '|', '>', '\'', '"', '%',
    '@', '\x60'].contains char

/-- Read the token that begins with a character at the current place. -/
def readToken (char : Char) (reader : TokenReader) : Except Refusal TokenReader :=
  let cursor := reader.cursor
  let gapFollows := cursor.gapAt 1
  if cursor.column == 0 && char == '%' then reader.readDirective
  else if cursor.atDocumentMarker then
    reader.readMarker (if char = '-' then .documentStart else .documentEnd)
  else if char = '[' then reader.openFlow .flowSequenceStart
  else if char = '\x7b' then reader.openFlow .flowMappingStart
  else if char = ']' then reader.closeFlow .flowSequenceEnd
  else if char = '\x7d' then reader.closeFlow .flowMappingEnd
  else if char = ',' then reader.readFlowEntry
  else if char = '-' ∧ gapFollows then reader.readBlockEntry
  else if char = '?' ∧ (reader.inFlow ∨ gapFollows) then reader.readKey
  else if char = ':' ∧ (reader.inFlow ∨ gapFollows) then reader.readValue
  else if char = '*' then reader.readName .alias
  else if char = '&' then reader.readName .anchor
  else if char = '!' then reader.readTag
  else if char = '|' ∧ !reader.inFlow then reader.readBlockScalar false
  else if char = '>' ∧ !reader.inFlow then reader.readBlockScalar true
  else if char = '\'' ∨ char = '"' then reader.readQuoted char
  else if !isGap char && !isIndicator char then reader.readPlain
  else if char = '-' then reader.readPlain
  else if !reader.inFlow && (char == '?' || char == ':') then reader.readPlain
  else reader.refuse

/-- Read all tokens.  Every token takes at least one character, so the bound on
the steps by the number of characters is never met. -/
def readAll : Nat → TokenReader → Except Refusal (List Token)
  | 0, reader => reader.refuse
  | steps + 1, reader => do
    let reader ← (toNextToken (reader.cursor.rest.length + 1) reader).dropStaleKeys
    match reader.cursor.rest with
    | [] =>
      let closed ← (reader.unindent (-1)).dropKey
      pure closed.reversed.reverse
    | char :: _ =>
      let next ← (reader.unindent reader.cursor.column).readToken char
      readAll steps next

end TokenReader

/-- The tokens of a document. -/
def Token.ofChars (chars : List Char) : Except Refusal (List Token) :=
  if chars.all isAllowed then
    TokenReader.readAll (chars.length + 1) (TokenReader.start chars)
  else .error .forbiddenCharacter

end Yaml
end Ritual
