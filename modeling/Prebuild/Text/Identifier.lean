import Prebuild.Text.IdentifierRanges

/-!
# Identifiers

The names that can stand for a class in a module. The dollar sign and the low line may start
one, and the two zero-width joiners may occur inside.
-/

namespace Prebuild.Text

/-- Whether an identifier may begin with the character. -/
def startsIdentifier (c : Char) : Bool :=
  c = '_' || c = '$' || idStartRanges.contains c

/-- Whether the character may follow in an identifier. -/
def continuesIdentifier (c : Char) : Bool :=
  c = '$' || c = '\u200C' || c = '\u200D' || idContinueRanges.contains c

/-- Whether the characters form an identifier. -/
def isIdentifier : List Char → Bool
  | [] => false
  | c :: cs => startsIdentifier c && cs.all continuesIdentifier

end Prebuild.Text
