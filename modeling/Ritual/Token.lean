import Ritual.Source.Position
import Ritual.Text.Quoted

namespace Ritual

/-!
# Tokens

A token has a kind, a text, the location of its first character and the span of
its bytes.  The text is the source under the span, except for a string, whose
text is the value that the literal denotes.  Tokens are plain data: nothing
here says that a token comes from a source.
-/

/-- The kinds of token, in the order in which they are listed for readers. -/
inductive TokenKind where
  /-- A call `::school:operation`. -/
  | schoolInvocation
  /-- The arrow `->`. -/
  | outputBinding
  /-- An opening brace. -/
  | dataBlockStart
  /-- A closing brace. -/
  | dataBlockEnd
  /-- Three double quotes. -/
  | tripleQuote
  /-- A tag `LANGUAGE[…]`, `PYTHON::`, `JAVASCRIPT::` or `JS::`. -/
  | languageParam
  /-- A tag `WEB::` with its selector. -/
  | webParam
  /-- A tag `QUANTUM::` with the rest of its line. -/
  | quantumParam
  /-- A comment that opens with `///`. -/
  | commentDoc
  /-- A comment that opens with `//!?`. -/
  | commentGuardian
  /-- A comment that opens with `//!`. -/
  | commentPrereq
  /-- A comment that opens with `//<3`. -/
  | commentLove
  /-- A comment that opens with `//~`. -/
  | commentDrift
  /-- A comment that opens with `//*`. -/
  | commentWild
  /-- Any other comment. -/
  | commentStandard
  /-- A literal between quotes. -/
  | string
  | number
  | identifier
  | newline
  /-- The end of the stream. -/
  | eof
  /-- Text that is none of the other kinds. -/
  | unknown
deriving DecidableEq, Repr

namespace TokenKind

/-- Every kind, in order. -/
def all : List TokenKind :=
  [schoolInvocation, outputBinding, dataBlockStart, dataBlockEnd, tripleQuote, languageParam,
    webParam, quantumParam, commentDoc, commentGuardian, commentPrereq, commentLove, commentDrift,
    commentWild, commentStandard, string, number, identifier, newline, eof, unknown]

/-- The name under which a kind is shown and stored. -/
def name : TokenKind → String
  | schoolInvocation => "school_invocation"
  | outputBinding => "output_binding"
  | dataBlockStart => "data_block_start"
  | dataBlockEnd => "data_block_end"
  | tripleQuote => "triple_quote"
  | languageParam => "language_param"
  | webParam => "web_param"
  | quantumParam => "quantum_param"
  | commentDoc => "comment_doc"
  | commentGuardian => "comment_guardian"
  | commentPrereq => "comment_prereq"
  | commentLove => "comment_love"
  | commentDrift => "comment_drift"
  | commentWild => "comment_wild"
  | commentStandard => "comment_standard"
  | string => "string"
  | number => "number"
  | identifier => "identifier"
  | newline => "newline"
  | eof => "eof"
  | unknown => "unknown"

/-- The kind with a given name. -/
def ofName? (text : String) : Option TokenKind :=
  all.find? fun kind => kind.name == text

/-- Whether a token of the kind ends the body of the block before it and opens
a new one: the three kinds of typed parameter. -/
def opensBlock : TokenKind → Bool
  | languageParam | webParam | quantumParam => true
  | _ => false

/-- Whether the kind is one of the seven kinds of comment. -/
def isComment : TokenKind → Bool
  | commentDoc | commentGuardian | commentPrereq | commentLove | commentDrift | commentWild
  | commentStandard => true
  | _ => false

end TokenKind

/-- A token of a ritual. -/
structure Token where
  kind : TokenKind
  text : String
  location : Source.Location
  span : Source.Span
deriving DecidableEq, Repr

namespace Token

/-- The width of the column that shows the kind. -/
def kindWidth : Nat := 18

/-- The line that shows a token: its kind in a column of its own, its text as a
quotation, and its location. -/
def display (token : Token) : String :=
  String.ofList (token.kind.name.toList.rightpad kindWidth ' ') ++ " " ++ Text.quote token.text ++
    " L" ++ toString token.location.line.toNat ++ ":C" ++ toString token.location.column.toNat

end Token
end Ritual
