import Ritual.Source.Position
import Ritual.Token

namespace Ritual
namespace Line

/-!
# Lines of a block's body

A line is the list of tokens between two newline tokens.  It is written out
either by cutting it from the source or by joining the texts of its tokens.
Joining keeps the tokens but not the spacing.  Cutting keeps both, and falls
back to joining if the tokens do not point into the source.
-/

/-- How the lines of a body are written out. -/
inductive Reconstruction where
  /-- Cut each line from the source, with its indentation and without blanks at
  its end. -/
  | source
  /-- Join the texts of the tokens. -/
  | tokens
deriving DecidableEq, Repr

namespace Reconstruction

/-- The name under which a command line gives the way of writing. -/
def name : Reconstruction → String
  | source => "source"
  | tokens => "tokens"

/-- The way of writing with a given name. -/
def ofName? : String → Option Reconstruction
  | "source" => some source
  | "tokens" => some tokens
  | _ => none

end Reconstruction

/-! ## Joining token texts -/

/-- How a literal writes one character of its value. -/
def escapeChar : Char → List Char
  | '"' => ['\\', '"']
  | '\\' => ['\\', '\\']
  | '\n' => ['\\', 'n']
  | '\t' => ['\\', 't']
  | char => [char]

/-- A literal, between double quotes, with the given value. -/
def requote (value : String) : String :=
  String.ofList (['"'] ++ value.toList.flatMap escapeChar ++ ['"'])

@[simp] theorem toList_requote (value : String) :
    (requote value).toList = ['"'] ++ value.toList.flatMap escapeChar ++ ['"'] := by
  simp [requote]

/-- The punctuation that stands right behind the part before it. -/
def attached : List String :=
  ["(", ")", "[", "]", "\x7b", "\x7d", ",", ".", ";", ":"]

/-- Whether a token joins the part before it, if there is one.  A string never
does, whatever its value is. -/
def attaches (token : Token) : Bool :=
  token.kind != .string && attached.contains token.text

/-- The text that a token contributes. -/
def written (token : Token) : String :=
  if token.kind = .string then requote token.text else token.text

/-- The parts of a line, with `part` begun and not yet finished. -/
def partsAfter (part : String) : List Token → List String
  | [] => [part]
  | token :: rest =>
    if attaches token then partsAfter (part ++ token.text) rest
    else part :: partsAfter (written token) rest

/-- The parts of a line, which blanks separate. -/
def parts : List Token → List String
  | [] => []
  | token :: rest => partsAfter (written token) rest

/-- A line joined from the texts of its tokens. -/
def joined (tokens : List Token) : String :=
  " ".intercalate (parts tokens)

/-! ## Cutting from the source -/

/-- The number of characters behind the last line feed, in bytes. -/
def bytesAfterLastLineFeed (chars : List Char) : Nat :=
  Source.byteLength (chars.reverse.takeWhile (· != '\n'))

/-- The offset at which the line around an offset begins, and zero if the offset
is no boundary of the source. -/
def startOfLine (source : List Char) (offset : Nat) : Nat :=
  match Source.splitBytes offset source with
  | some (before, _) => offset - bytesAfterLastLineFeed before
  | none => 0

/-- The text of a line in the source.  On the tag's own line it begins with its
first token, and on any other line with the indentation. -/
def cut? (source : List Char) (tag first last : Token) : Option String :=
  let start :=
    if first.location.line = tag.location.line then first.span.start
    else startOfLine source first.span.start
  (Source.slice? source start last.span.stop).map String.ofList

/-- A line of the body that belongs to a tag. -/
def render (mode : Reconstruction) (source : List Char) (tag : Token) : List Token → String
  | [] => ""
  | first :: rest =>
    match mode with
    | .tokens => joined (first :: rest)
    | .source =>
      match cut? source tag first ((first :: rest).getLast (by simp)) with
      | some text => text
      | none => joined (first :: rest)

/-! ## Grouping tokens into lines -/

/-- The lines of a token list.  A newline token ends a line; what follows the
last one is a line only if there is something. -/
def ofTokens : List Token → List (List Token)
  | [] => []
  | token :: rest =>
    if token.kind = .newline then [] :: ofTokens rest
    else match ofTokens rest with
      | [] => [[token]]
      | line :: lines => (token :: line) :: lines

theorem ofTokens_newline {token : Token} (rest : List Token) (newline : token.kind = .newline) :
    ofTokens (token :: rest) = [] :: ofTokens rest := by
  simp [ofTokens, newline]

end Line
end Ritual
