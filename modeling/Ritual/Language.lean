import Ritual.Lexeme
import Ritual.Text.LowerCase
import Ritual.Text.WhiteSpace
import Ritual.Text.WordChar

namespace Ritual
namespace Language

/-!
# The language that a tag names

`PYTHON::`, `JAVASCRIPT::` and `JS::` name their language themselves.  A tag
`LANGUAGE[…]` names it in an attribute `lang="…"`, and the leftmost text of
that form counts, wherever it stands in the tag.  A tag that names no language
is no error here.
-/

/-- Whether a text begins with a word, in any ASCII case.  The word is given in
capitals. -/
def beginsWith (word : List Char) (chars : List Char) : Bool :=
  (chars.take word.length).map Char.toUpper == word

/-- A single or a double quote. -/
def isQuote (char : Char) : Bool :=
  char == '"' || char == '\''

/-- The rest of the characters after a text that begins with a word, in any
ASCII case. -/
def stripWord? (word : List Char) (chars : List Char) : Option (List Char) :=
  if beginsWith word chars then some (chars.drop word.length) else none

/-- The value of an attribute `lang` at the very beginning: the word, an equals
sign with any white space around it, and a non-empty run of word characters
between quotes.  The two quotes need not be of one kind. -/
def attributeHere? (chars : List Char) : Option (List Char) := do
  let afterName ← stripWord? ['L', 'A', 'N', 'G'] chars
  match afterName.dropWhile Text.isWhiteSpace with
  | '=' :: afterSign =>
    match afterSign.dropWhile Text.isWhiteSpace with
    | opening :: quoted =>
      let word := quoted.takeWhile Text.isWordChar
      match quoted.dropWhile Text.isWordChar with
      | closing :: _ =>
        if isQuote opening && isQuote closing && !word.isEmpty then some word else none
      | [] => none
    | [] => none
  | _ => none

/-- The value of the leftmost attribute `lang`. -/
def attribute? : List Char → Option (List Char)
  | [] => none
  | char :: rest =>
    match attributeHere? (char :: rest) with
    | some word => some word
    | none => attribute? rest

/-- The language that a tag names, in lower case. -/
def ofTag? (tag : String) : Option String :=
  let chars := tag.toList
  if beginsWith "PYTHON".toList chars then some "python"
  else if beginsWith "JAVASCRIPT".toList chars || beginsWith "JS".toList chars then
    some "javascript"
  else if beginsWith "LANGUAGE[".toList chars then
    (attribute? chars).map fun word => Text.lowercase (String.ofList word)
  else none

end Language
end Ritual
