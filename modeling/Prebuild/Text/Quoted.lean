import Prebuild.Text.HiddenRanges

/-!
# Quoting a text in a message

Between double quotes every character stands for itself, except the quote and the backslash,
which take a backslash, four controls with short names, and the characters that would not
show, which are written by their code point in hexadecimal.
-/

namespace Prebuild.Text

/-- Whether a character shows as itself in a quotation. -/
def isShown (c : Char) : Bool :=
  c = ' ' || !(formlessRanges.contains c || attachingRanges.contains c)

/-- How one character is written in a quotation. -/
def quoteChar (c : Char) : List Char :=
  if c = '"' then ['\\', '"']
  else if c = '\\' then ['\\', '\\']
  else if c = '\t' then ['\\', 't']
  else if c = '\r' then ['\\', 'r']
  else if c = '\n' then ['\\', 'n']
  else if c = '\x00' then ['\\', '0']
  else if isShown c then [c]
  else "\\u\x7b".toList ++ Nat.toDigits 16 c.toNat ++ ['\x7d']

/-- The text between double quotes. -/
def quote (s : String) : String :=
  String.ofList ('"' :: s.toList.flatMap quoteChar ++ ['"'])

end Prebuild.Text
