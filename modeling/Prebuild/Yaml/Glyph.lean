/-!
# Characters with their positions

The text of a document is a list of glyphs: characters that know their line and column, both
from zero. Carriage return, carriage return with line feed, line feed and next line are all
one line feed glyph; the line and paragraph separators end a line as well but stay what they
are. An end glyph, a NUL that no text may hold, closes the list, so that the position of the
end is known too.
-/

namespace Prebuild.Yaml

structure Glyph where
  char : Char
  line : Nat
  column : Nat

namespace Glyph

/-- Whether a document may hold the character at all. -/
def isAllowed (c : Char) : Bool :=
  let n := c.toNat
  n = 0x09 || n = 0x0A || n = 0x0D || (0x20 ≤ n && n ≤ 0x7E) || n = 0x85 ||
    (0xA0 ≤ n && n ≤ 0xD7FF) || (0xE000 ≤ n && n ≤ 0xFFFD) || (0x10000 ≤ n && n ≤ 0x10FFFF)

/-- The glyphs of a text that starts at a position. -/
def ofChars (line column : Nat) : List Char → List Glyph
  | [] => [⟨'\x00', line, column⟩]
  | '\r' :: '\n' :: cs => ⟨'\n', line, column⟩ :: ofChars (line + 1) 0 cs
  | c :: cs =>
    if c = '\r' || c = '\n' || c = '\u0085' then
      ⟨'\n', line, column⟩ :: ofChars (line + 1) 0 cs
    else if c = '\u2028' || c = '\u2029' then ⟨c, line, column⟩ :: ofChars (line + 1) 0 cs
    else ⟨c, line, column⟩ :: ofChars line (column + 1) cs

/-- The glyphs of a text, unless it holds a character that no document may hold. -/
def ofText? (text : String) : Option (List Glyph) :=
  if text.toList.all isAllowed then some (ofChars 0 0 text.toList) else none

def isEnd (g : Glyph) : Bool := g.char = '\x00'

def isBlank (g : Glyph) : Bool := g.char = ' ' || g.char = '\t'

def isBreak (g : Glyph) : Bool := g.char = '\n' || g.char = '\u2028' || g.char = '\u2029'

/-- Whether the glyph ends a line. -/
def endsLine (g : Glyph) : Bool := g.isBreak || g.isEnd

/-- Whether the glyph ends a word. -/
def endsWord (g : Glyph) : Bool := g.isBlank || g.endsLine

/-- Whether the glyph can be part of the name of an anchor, a directive or a tag handle. -/
def isNameChar (g : Glyph) : Bool := g.char.isAlphanum || g.char = '_' || g.char = '-'

end Glyph

/-- The glyphs that are still to be read, the end glyph included. -/
abbrev Glyphs := List Glyph

namespace Glyphs

/-- The character `n` glyphs ahead. -/
def charAt (gs : Glyphs) (n : Nat) : Char := (gs[n]?.map (·.char)).getD '\x00'

/-- Whether a word ends in front of the glyph `n` ahead. -/
def wordEndsAt (gs : Glyphs) (n : Nat) : Bool := (gs[n]?.map (·.endsWord)).getD true

/-- The column of the next glyph. -/
def column (gs : Glyphs) : Nat := (gs.head?.map (·.column)).getD 0

/-- The line of the next glyph. -/
def line (gs : Glyphs) : Nat := (gs.head?.map (·.line)).getD 0

/-- Whether the next three glyphs are `c` at the start of a line, with nothing attached. -/
def isMarker (gs : Glyphs) (c : Char) : Bool :=
  column gs = 0 && charAt gs 0 = c && charAt gs 1 = c && charAt gs 2 = c && wordEndsAt gs 3

/-- Whether the line marks the start or the end of a document. -/
def isDocumentMarker (gs : Glyphs) : Bool := isMarker gs '-' || isMarker gs '.'

/-- The text of the leading glyphs with a property, and the glyphs behind them. -/
def span (p : Glyph → Bool) (gs : Glyphs) : String × Glyphs :=
  (String.ofList ((gs.takeWhile p).map (·.char)), gs.dropWhile p)

/-- The glyphs behind blanks and a comment, if the line ends there. -/
def toLineEnd? (gs : Glyphs) : Option Glyphs :=
  let gs := gs.dropWhile (·.isBlank)
  let gs := if charAt gs 0 = '#' then gs.dropWhile (!·.endsLine) else gs
  match gs with
  | [] => none
  | g :: rest => if g.isBreak then some rest else if g.isEnd then some (g :: rest) else none

end Glyphs

end Prebuild.Yaml
