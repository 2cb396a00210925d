import Prebuild.Text.Lines
import Prebuild.Text.Blank
import Prebuild.Text.Identifier

/-!
# Exported classes of a source text

A line declares an exported class when it begins with the words `export class` and one space
after each. The next word is the name of the class and has to be an identifier by itself; a
line whose next word is not one is reported and declares nothing, and a line without a
further word declares nothing either.
-/

namespace Prebuild

/-- What a line that begins like a declaration amounts to. -/
inductive Declaration where
  | exported (name : String)
  /-- The line, up to its last character that is not blank. -/
  | malformed (line : String)
deriving DecidableEq

namespace Declaration

/-- How a line that declares an exported class begins. -/
def marker : String := "export class "

/-- What follows `start` at the beginning of the line. -/
def behind? : List Char → List Char → Option (List Char)
  | [], line => some line
  | _ :: _, [] => none
  | s :: start, c :: line => if c = s then behind? start line else none

/-- What a line declares. -/
def ofLine? (line : List Char) : Option Declaration :=
  match behind? marker.toList line with
  | none => none
  | some rest =>
    match Text.firstWord rest with
    | [] => none
    | word =>
      if Text.isIdentifier word then some (.exported (String.ofList word))
      else some (.malformed (marker ++ String.ofList (Text.trimEnd rest)))

/-- What the lines of a source text declare, in order. -/
def ofSource (source : String) : List Declaration :=
  (Text.lines source.toList).filterMap ofLine?

/-- The name of the class, where one is declared. -/
def name? : Declaration → Option String
  | .exported name => some name
  | .malformed _ => none

/-- The line, where it declares nothing. -/
def malformed? : Declaration → Option String
  | .exported _ => none
  | .malformed line => some line

end Declaration

end Prebuild
