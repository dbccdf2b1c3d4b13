import Ritual.Text.CodeRanges

namespace Ritual
namespace Text

/-!
# White space

The Unicode property White_Space.  The zero-width space U+200B and the byte
order mark U+FEFF do not have it.
-/

/-- The code points with the property White_Space. -/
def whiteSpaceRanges : CodeRanges where
  ranges := [
    (0x0009, 0x000D), (0x0020, 0x0020), (0x0085, 0x0085), (0x00A0, 0x00A0), (0x1680, 0x1680),
    (0x2000, 0x200A), (0x2028, 0x2029), (0x202F, 0x202F), (0x205F, 0x205F), (0x3000, 0x3000)]

/-- Whether the character is white space. -/
def isWhiteSpace (char : Char) : Bool :=
  whiteSpaceRanges.contains char

/-- Whether a text consists of white space only; the empty text does. -/
def isBlank (text : String) : Bool :=
  text.toList.all isWhiteSpace

end Text
end Ritual
