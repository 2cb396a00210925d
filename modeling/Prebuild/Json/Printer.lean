import Prebuild.Json.Basic
import Prebuild.Decimal.Layout

/-!
# Writing JSON

Values are written over several lines, with four spaces for each level and one member or
item a line; an empty container stays on one line. Inside a string only the quote, the
backslash and the controls below U+0020 are escaped, so what is written holds no line break
that was not put there to separate items.
-/

namespace Prebuild.Json

/-- Floating point values from 0.00001 up to below 10^16 are written in full. -/
def realLayout : Decimal.Layout where
  full := some (-5, 16)
  tie := .toEven

/-- How one character is written inside a string. -/
def escape (c : Char) : List Char :=
  if c = '"' then ['\\', '"']
  else if c = '\\' then ['\\', '\\']
  else if c = '\x08' then ['\\', 'b']
  else if c = '\x0c' then ['\\', 'f']
  else if c = '\n' then ['\\', 'n']
  else if c = '\r' then ['\\', 'r']
  else if c = '\t' then ['\\', 't']
  else if c.toNat < 0x20 then
    ['\\', 'u', '0', '0', Nat.digitChar (c.toNat / 16), Nat.digitChar (c.toNat % 16)]
  else [c]

/-- A text as a string literal. -/
def literal (s : String) : String :=
  String.ofList ('"' :: s.toList.flatMap escape ++ ['"'])

/-- The text of a number. -/
def numeral : Number → String
  | .integer n => toString n
  | .real x => realLayout.render x

/-- The white space at the start of a line of the given level. -/
def indent (level : Nat) : String := "\n" ++ String.ofList (List.replicate (4 * level) ' ')

mutual

/-- The text of a value that stands at the given level. -/
def pretty (level : Nat) : Json → String
  | .null => "null"
  | .bool true => "true"
  | .bool false => "false"
  | .number n => numeral n
  | .string s => literal s
  | .array [] => "[]"
  | .array (j :: js) =>
    "[" ++ indent (level + 1) ++ pretty (level + 1) j ++
      String.join (prettyItems (level + 1) js) ++ indent level ++ "]"
  | .object [] => "\x7b\x7d"
  | .object ((k, j) :: ms) =>
    "\x7b" ++ indent (level + 1) ++ literal k ++ ": " ++ pretty (level + 1) j ++
      String.join (prettyMembers (level + 1) ms) ++ indent level ++ "\x7d"

/-- The items after the first, each behind a comma. -/
def prettyItems (level : Nat) : List Json → List String
  | [] => []
  | j :: js => ("," ++ indent level ++ pretty level j) :: prettyItems level js

/-- The members after the first, each behind a comma. -/
def prettyMembers (level : Nat) : List (String × Json) → List String
  | [] => []
  | (k, j) :: ms =>
    ("," ++ indent level ++ literal k ++ ": " ++ pretty level j) :: prettyMembers level ms

end

/-- The text of an object with the given members. -/
def Members.pretty (ms : Members) : String := Json.pretty 0 (.object ms)

end Prebuild.Json
