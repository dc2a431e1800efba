import Worksheet.Text.Combining
import Worksheet.Text.Unprintable

/-!
# Quoted text

The form in which messages quote a text, so that its ends and its invisible
characters can be seen.  The text stands between double quotes; a quote, a
backslash, a tab, a line feed, a carriage return and a null character have
short escapes; combining and unprintable characters are given by their code
point, as in `\u{301}`; all else stands for itself.
-/

namespace Worksheet.Text

/-- The code point of a character in lower-case hexadecimal. -/
def codePointEscape (c : Char) : List Char :=
  "\\u\x7b".toList ++ Nat.toDigits 16 c.toNat ++ ['}']

/-- One character as it stands between the quotes. -/
def quotedChar (c : Char) : List Char :=
  if c = '"' then ['\\', '"']
  else if c = '\\' then ['\\', '\\']
  else if c = '\t' then ['\\', 't']
  else if c = '\n' then ['\\', 'n']
  else if c = '\r' then ['\\', 'r']
  else if c = '\x00' then ['\\', '0']
  else if isCombining c || !isPrintable c then codePointEscape c
  else [c]

/-- A text between double quotes, with escapes for what would not show. -/
def quoted (text : String) : String :=
  String.ofList ('"' :: text.toList.flatMap quotedChar ++ ['"'])

end Worksheet.Text
