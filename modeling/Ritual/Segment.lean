import Ritual.Language
import Ritual.Line

namespace Ritual

/-!
# Segments of a ritual

A ritual is a flat sequence of segments: a tag, which is a typed parameter, and
the tokens up to the next tag or the end.  A language tag makes a block, a web
or quantum tag is only noted, and what precedes the first tag is in no segment.
-/

/-- A block of code in one language. -/
structure Block where
  /-- The language with the ending `_block`. -/
  kind : String
  language : String
  body : String
  /-- The location of the tag. -/
  location : Source.Location
deriving DecidableEq, Repr

/-- A tag that is recognised but makes no block. -/
structure DeferredTag where
  language : String
  tag : String
  location : Source.Location
deriving DecidableEq, Repr

/-- A tag with the tokens up to the next one. -/
structure Segment where
  tag : Token
  content : List Token
deriving DecidableEq, Repr

namespace Segment

/-- The segments of a token list, none of which is the end of a stream. -/
def ofTokens : List Token → List Segment
  | [] => []
  | token :: rest =>
    if token.kind.opensBlock then
      ⟨token, rest.takeWhile fun next => !next.kind.opensBlock⟩ :: ofTokens rest
    else ofTokens rest

/-- The lines of the segment.  Line ends right behind the tag begin no line. -/
def lines (segment : Segment) : List (List Token) :=
  Line.ofTokens (segment.content.dropWhile fun token => token.kind == .newline)

/-- The text of the segment's lines. -/
def body (mode : Line.Reconstruction) (source : List Char) (segment : Segment) : String :=
  "\n".intercalate (segment.lines.map (Line.render mode source segment.tag))

/-- The name of a language that no tag names. -/
def unknownLanguage : String := "unknown"

/-- The block of a language tag, and none for any other tag. -/
def block? (mode : Line.Reconstruction) (source : List Char) (segment : Segment) : Option Block :=
  if segment.tag.kind = .languageParam then
    let language := (Language.ofTag? segment.tag.text).getD unknownLanguage
    some
      { kind := language ++ "_block"
        language := language
        body := segment.body mode source
        location := segment.tag.location }
  else none

/-- The note of a web or quantum tag. -/
def deferred? (segment : Segment) : Option DeferredTag :=
  match segment.tag.kind with
  | .webParam => some ⟨"web", segment.tag.text, segment.tag.location⟩
  | .quantumParam => some ⟨"quantum", segment.tag.text, segment.tag.location⟩
  | _ => none

end Segment

end Ritual
