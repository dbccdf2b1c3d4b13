import Ritual.Text.Shown

namespace Ritual
namespace Text

/-!
# Quoted text for human readers

A quotation stands between double quotes and shows every character: the quote
and the backslash behind a backslash, five characters by a letter, and every
other character that is not shown by its code point in braces.  Hence no
quotation holds a line break.  Reading a quotation back is not part of this
module.
-/

/-- A code point in lower-case hexadecimal digits, between `\u` and braces. -/
def codePointEscape (char : Char) : List Char :=
  ['\\', 'u', '{'] ++ Nat.toDigits 16 char.toNat ++ ['}']

/-- How a quotation writes one character. -/
def quoteChar (char : Char) : List Char :=
  if char = '\x00' then ['\\', '0']
  else if char = '\t' then ['\\', 't']
  else if char = '\r' then ['\\', 'r']
  else if char = '\n' then ['\\', 'n']
  else if char = '"' then ['\\', '"']
  else if char = '\\' then ['\\', '\\']
  else if isShown char then [char]
  else codePointEscape char

/-- The quotation of a text. -/
def quote (text : String) : String :=
  String.ofList (['"'] ++ text.toList.flatMap quoteChar ++ ['"'])

@[simp] theorem toList_quote (text : String) :
    (quote text).toList = ['"'] ++ text.toList.flatMap quoteChar ++ ['"'] := by
  simp [quote]

end Text
end Ritual
