import Ritual.Json
import Ritual.Proofs.Text.Quotation

namespace Ritual
namespace Json

/-!
# JSON strings are read back

A JSON string is read character by character.  A backslash tells that a character is
written by a letter or by four hexadecimal digits, and a control character must not stand
as it is.  What is written for a text is read as that text, and it ends at its own closing
quote, whatever stands behind it.
-/

/-- The character that a letter behind a backslash stands for. -/
def escaped? : Char → Option Char
  | '"' => some '"'
  | '\\' => some '\\'
  | '/' => some '/'
  | 'b' => some '\x08'
  | 'f' => some '\x0c'
  | 'n' => some '\n'
  | 'r' => some '\r'
  | 't' => some '\t'
  | _ => none

/-- Read the characters of a string up to its closing quote, and give what stands behind it.
Whether four digits are digits, and in lower case, is not examined. -/
def readChars? : List Char → Option (List Char × List Char)
  | [] => none
  | '"' :: rest => some ([], rest)
  | '\\' :: 'u' :: first :: second :: third :: fourth :: rest => do
    let (chars, behind) ← readChars? rest
    return (Char.ofNat (Text.ofHexDigits [first, second, third, fourth]) :: chars, behind)
  | '\\' :: letter :: rest => do
    let char ← escaped? letter
    let (chars, behind) ← readChars? rest
    return (char :: chars, behind)
  | char :: rest =>
    if char.toNat < 0x20 then none
    else do
      let (chars, behind) ← readChars? rest
      return (char :: chars, behind)

/-- Read a string with its quotes, and give what stands behind it. -/
def readQuoted? : List Char → Option (String × List Char)
  | '"' :: rest => (readChars? rest).map fun read => (String.ofList read.1, read.2)
  | _ => none

theorem readChars?_self {char : Char} (noQuote : char ≠ '"') (noBackslash : char ≠ '\\')
    (noControl : ¬char.toNat < 0x20) {rest chars behind : List Char}
    (read : readChars? rest = some (chars, behind)) :
    readChars? (char :: rest) = some (char :: chars, behind) := by
  unfold readChars?
  split
  · simp_all
  · simp_all
  · simp_all
  · simp_all
  · simp_all

/-- A control character is written by the two lower ones of four digits. -/
theorem ofHexDigits_control {char : Char} (control : char.toNat < 0x20) :
    Char.ofNat (Text.ofHexDigits
      ['0', '0', hexDigit (char.toNat / 16), hexDigit (char.toNat % 16)]) = char := by
  have high := Text.hexValue_digitChar (char.toNat / 16) (by omega)
  have low := Text.hexValue_digitChar (char.toNat % 16) (by omega)
  have zero : Text.hexValue '0' = 0 := by decide
  have value : Text.ofHexDigits
      ['0', '0', hexDigit (char.toNat / 16), hexDigit (char.toNat % 16)] = char.toNat := by
    simp only [Text.ofHexDigits, List.foldl_cons, List.foldl_nil, hexDigit, high, low, zero]
    omega
  rw [value, Char.ofNat_toNat]

/-- A written character is read back, and reading goes on behind it. -/
theorem readChars?_escapeChar (char : Char) {rest chars behind : List Char}
    (read : readChars? rest = some (chars, behind)) :
    readChars? (escapeChar char ++ rest) = some (char :: chars, behind) := by
  unfold escapeChar
  split_ifs with quote backslash backspace formFeed lineFeed carriageReturn tab control
  · subst quote; simp [readChars?, escaped?, read]
  · subst backslash; simp [readChars?, escaped?, read]
  · subst backspace; simp [readChars?, escaped?, read]
  · subst formFeed; simp [readChars?, escaped?, read]
  · subst lineFeed; simp [readChars?, escaped?, read]
  · subst carriageReturn; simp [readChars?, escaped?, read]
  · subst tab; simp [readChars?, escaped?, read]
  · simp [readChars?, read, ofHexDigits_control control]
  · exact readChars?_self quote backslash control read

theorem readChars?_flatMap (chars rest : List Char) :
    readChars? (chars.flatMap escapeChar ++ '"' :: rest) = some (chars, rest) := by
  induction chars with
  | nil => rfl
  | cons char others inductionHypothesis =>
    rw [List.flatMap_cons, List.append_assoc]
    exact readChars?_escapeChar char inductionHypothesis

/-- What is written for a text is read as that text, whatever stands behind it. -/
theorem readQuoted?_quoted (text : String) (rest : List Char) :
    readQuoted? ((quoted text).toList ++ rest) = some (text, rest) := by
  have read := readChars?_flatMap text.toList rest
  simp [quoted, readQuoted?, read]

end Json
end Ritual
