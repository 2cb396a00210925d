/-!
# Lines

A line ends at a line feed, and one carriage return before that line feed belongs to the
line's end. A carriage return anywhere else, also at the very end of a text, is an ordinary
character of its line. What follows the last line feed is a line only if it is not empty.
-/

namespace Prebuild.Text

/-- The lines of a text, without their ends. -/
def lines : List Char → List (List Char)
  | [] => []
  | '\n' :: cs => [] :: lines cs
  | '\r' :: '\n' :: cs => [] :: lines cs
  | c :: cs =>
    match lines cs with
    | [] => [[c]]
    | l :: ls => (c :: l) :: ls

end Prebuild.Text
