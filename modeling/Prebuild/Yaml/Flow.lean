import Prebuild.Yaml.Glyph

/-!
# Scalars that run over lines

A plain or quoted scalar may go on in the next line. The break is then folded: one break
becomes a space, of several the first is dropped. Blanks around a break do not count; blanks
inside a line do.
-/

namespace Prebuild.Yaml

/-- White space met inside a scalar whose effect depends on what follows. Characters are
kept with the latest first. -/
inductive Gap where
  | none
  | blanks (read : List Char)
  /-- Breaks, and the blanks around them, which do not count. The first break is absent if a
  backslash stood in front of it. -/
  | breaks (first : Option Char) (more : List Char)

namespace Gap

def isNone : Gap → Bool
  | .none => true
  | _ => false

/-- Whether the gap reaches into another line. -/
def hasBreak : Gap → Bool
  | .breaks _ _ => true
  | _ => false

def addBlank (c : Char) : Gap → Gap
  | .none => .blanks [c]
  | .blanks cs => .blanks (c :: cs)
  | .breaks first more => .breaks first more

def addBreak (c : Char) : Gap → Gap
  | .breaks first more => .breaks first (c :: more)
  | _ => .breaks (some c) []

/-- The text, latest character first, with what the gap amounts to behind it. -/
def addTo (text : List Char) : Gap → List Char
  | .none => text
  | .blanks cs => cs ++ text
  | .breaks (some '\n') [] => ' ' :: text
  | .breaks (some '\n') more => more ++ text
  | .breaks (some c) more => more ++ c :: text
  | .breaks .none more => more ++ text

end Gap

/-- What was read of a scalar, and what follows it. -/
structure Read where
  text : String
  rest : Glyphs
  /-- whether the scalar was left behind a line break -/
  brokeOff : Bool

/-- The plain scalar that ends behind a text and a gap. The gap does not count. -/
def Read.upTo (text : List Char) (gap : Gap) (rest : Glyphs) : Read :=
  ⟨String.ofList text.reverse, rest, gap.hasBreak⟩

/-- Whether the character ends a plain scalar inside brackets. -/
def isFlowIndicator (c : Char) : Bool :=
  c = ',' || c = '[' || c = ']' || c = '\x7b' || c = '\x7d'

/-- Reads a plain scalar. In a block it ends in front of a line whose column is less than
`indent`, and a tab may not stand before that column. -/
def readPlain (inFlow : Bool) (indent : Int) (text : List Char) (gap : Gap) :
    Glyphs → Option Read
  | [] => some (.upTo text gap [])
  | g :: gs =>
    if g.isBlank then
      if gap.hasBreak && g.char = '\t' && (g.column : Int) < indent then none
      else readPlain inFlow indent text (gap.addBlank g.char) gs
    else if g.isBreak then readPlain inFlow indent text (gap.addBreak g.char) gs
    else if g.isEnd then some (.upTo text gap (g :: gs))
    else if !gap.isNone && (!inFlow && (g.column : Int) < indent ||
        Glyphs.isDocumentMarker (g :: gs) || g.char = '#') then
      some (.upTo text gap (g :: gs))
    else if inFlow && g.char = ':' &&
        (isFlowIndicator (Glyphs.charAt gs 0) || Glyphs.charAt gs 0 = '?') then none
    else if g.char = ':' && Glyphs.wordEndsAt gs 0 || inFlow && isFlowIndicator g.char then
      some (.upTo text gap (g :: gs))
    else readPlain inFlow indent (g.char :: gap.addTo text) .none gs

/-- Reads a scalar in single quotes behind the opening one. Two quotes stand for one. -/
def readSingleQuoted (text : List Char) (gap : Gap) : Glyphs → Option Read
  | [] => none
  | g :: gs =>
    if g.isEnd then none
    else if g.isBlank then readSingleQuoted text (gap.addBlank g.char) gs
    else if g.isBreak then readSingleQuoted text (gap.addBreak g.char) gs
    else if !gap.isNone && Glyphs.isDocumentMarker (g :: gs) then none
    else
      let text := gap.addTo text
      if g.char ≠ '\'' then readSingleQuoted (g.char :: text) .none gs
      else
        match gs with
        | g' :: gs' =>
          if g'.char = '\'' then readSingleQuoted ('\'' :: text) .none gs'
          else some ⟨String.ofList text.reverse, g' :: gs', false⟩
        | [] => some ⟨String.ofList text.reverse, [], false⟩

/-- What the character behind a backslash stands for by itself. -/
def unescape? (c : Char) : Option Char :=
  if c = '0' then some '\x00'
  else if c = 'a' then some '\x07'
  else if c = 'b' then some '\x08'
  else if c = 't' || c = '\t' then some '\t'
  else if c = 'n' then some '\n'
  else if c = 'v' then some '\x0b'
  else if c = 'f' then some '\x0c'
  else if c = 'r' then some '\r'
  else if c = 'e' then some '\x1b'
  else if c = ' ' || c = '"' || c = '/' || c = '\\' then some c
  else if c = 'N' then some '\u0085'
  else if c = '_' then some '\u00a0'
  else if c = 'L' then some '\u2028'
  else if c = 'P' then some '\u2029'
  else none

/-- How many hexadecimal digits follow the letter of an escape. -/
def codeLength? (c : Char) : Option Nat :=
  if c = 'x' then some 2 else if c = 'u' then some 4 else if c = 'U' then some 8 else none

/-- The value of a hexadecimal digit. -/
def hexDigit? (c : Char) : Option Nat :=
  if c.isDigit then some (c.toNat - '0'.toNat)
  else if 'a' ≤ c ∧ c ≤ 'f' then some (c.toNat - 'a'.toNat + 10)
  else if 'A' ≤ c ∧ c ≤ 'F' then some (c.toNat - 'A'.toNat + 10)
  else none

/-- The character with a code point. -/
def charOfCode? (n : Nat) : Option Char :=
  if n < 0xD800 ∨ (0xDFFF < n ∧ n ≤ 0x10FFFF) then some (Char.ofNat n) else none

/-- Reads a scalar in double quotes behind the opening one. `code` holds the digits of an
escape that are still owed and the value of those read. -/
def readDoubleQuoted (text : List Char) (gap : Gap) (code : Option (Nat × Nat)) :
    Glyphs → Option Read
  | [] => none
  | g :: gs =>
    match code with
    | some (owed, value) =>
      match hexDigit? g.char with
      | none => none
      | some d =>
        let value := value * 16 + d
        if 1 < owed then readDoubleQuoted text gap (some (owed - 1, value)) gs
        else
          match charOfCode? value with
          | none => none
          | some c => readDoubleQuoted (c :: text) .none none gs
    | none =>
      if g.isEnd then none
      else if g.isBlank then readDoubleQuoted text (gap.addBlank g.char) none gs
      else if g.isBreak then readDoubleQuoted text (gap.addBreak g.char) none gs
      else if !gap.isNone && Glyphs.isDocumentMarker (g :: gs) then none
      else
        let text := gap.addTo text
        if g.char = '"' then some ⟨String.ofList text.reverse, gs, false⟩
        else if g.char ≠ '\\' then readDoubleQuoted (g.char :: text) .none none gs
        else
          match gs with
          | [] => none
          | e :: gs =>
            if e.isBreak then readDoubleQuoted text (.breaks none []) none gs
            else
              match codeLength? e.char, unescape? e.char with
              | some n, _ => readDoubleQuoted text .none (some (n, 0)) gs
              | none, some c => readDoubleQuoted (c :: text) .none none gs
              | none, none => none

end Prebuild.Yaml
