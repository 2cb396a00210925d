import Prebuild.Yaml.Flow

/-!
# Block scalars

A block scalar is announced by `|` or `>` and holds the lines behind it that are indented.
The indentation is that of its first line with text, or a number in the header counted from
the indentation around it. In a folded scalar a break between two lines of text that do not
begin with a blank becomes a space. The header also says what is left of the breaks at the
end: the first of them, none, or all.
-/

namespace Prebuild.Yaml

/-- What is left of the breaks at the end of a block scalar. -/
inductive Chomping where
  | clip
  | strip
  | keep
deriving DecidableEq

structure BlockHeader where
  chomping : Chomping
  /-- the written indentation -/
  indent? : Option Nat

def Chomping.ofChar? (c : Char) : Option Chomping :=
  if c = '+' then some .keep else if c = '-' then some .strip else none

/-- The digit of a header; zero is not allowed. -/
def headerDigit? (g : Glyph) : Option (Option Nat) :=
  if !g.char.isDigit then some none
  else if g.char = '0' then none
  else some (some (g.char.toNat - '0'.toNat))

/-- Reads what stands behind the indicator: a digit and a sign at most, in either order. -/
def readBlockHeader (gs : Glyphs) : Option (BlockHeader × Glyphs) :=
  match gs with
  | [] => none
  | g :: rest =>
    match Chomping.ofChar? g.char with
    | some chomping =>
      match rest with
      | [] => none
      | d :: rest' => do
        match ← headerDigit? d with
        | some n => some (⟨chomping, some n⟩, rest')
        | none => some (⟨chomping, none⟩, rest)
    | none => do
      match ← headerDigit? g with
      | none => some (⟨.clip, none⟩, gs)
      | some n =>
        match Chomping.ofChar? (Glyphs.charAt rest 0) with
        | some chomping => some (⟨chomping, some n⟩, rest.tail)
        | none => some (⟨.clip, some n⟩, rest)

/-- Passes indentation and empty lines in front of the text, where the indentation is not
known if it is zero. Returns the widest indentation met, the breaks, and the glyphs that are
left. A tab in place of indentation is refused. -/
def readBlockStart (indent widest : Nat) (breaks : List Char) :
    Glyphs → Option (Nat × List Char × Glyphs)
  | [] => some (widest, breaks, [])
  | g :: gs =>
    let inIndent := indent = 0 || g.column < indent
    if inIndent && g.char = ' ' then readBlockStart indent widest breaks gs
    else if inIndent && g.char = '\t' then none
    else if g.isBreak then readBlockStart indent (max widest g.column) (g.char :: breaks) gs
    else some (max widest g.column, breaks, g :: gs)

/-- The state of reading the lines of a block scalar. Characters are kept with the latest
first. -/
structure BlockText where
  text : List Char
  /-- the break at the end of the last line with text -/
  lineBreak : List Char
  /-- the breaks of empty lines behind it -/
  emptyLines : List Char
  /-- whether the last line began with a blank -/
  blankStart : Bool

/-- Begins a line of text with `g`. -/
def BlockText.startLine (literal : Bool) (b : BlockText) (g : Glyph) : BlockText :=
  let folds := !literal && b.lineBreak = ['\n'] && !b.blankStart && !g.isBlank
  let joined :=
    if !folds then b.lineBreak ++ b.text
    else if b.emptyLines.isEmpty then ' ' :: b.text
    else b.text
  ⟨g.char :: (b.emptyLines ++ joined), [], [], g.isBlank⟩

/-- Reads the lines of a block scalar. -/
def readBlockLines (literal : Bool) (indent : Nat) (b : BlockText) (inLine : Bool) :
    Glyphs → Option (BlockText × Glyphs)
  | [] => some (b, [])
  | g :: gs =>
    if g.isEnd then some (b, g :: gs)
    else if inLine then
      if g.isBreak then readBlockLines literal indent { b with lineBreak := [g.char] } false gs
      else readBlockLines literal indent { b with text := g.char :: b.text } true gs
    else if g.column < indent && g.char = ' ' then readBlockLines literal indent b false gs
    else if g.column < indent && g.char = '\t' then none
    else if g.isBreak then
      readBlockLines literal indent { b with emptyLines := g.char :: b.emptyLines } false gs
    else if g.column = indent then readBlockLines literal indent (b.startLine literal g) true gs
    else some (b, g :: gs)

/-- Reads a block scalar behind its indicator. `outer` is the indentation around it, -1 at the
top. -/
def readBlock (literal : Bool) (outer : Int) (gs : Glyphs) : Option Read := do
  let (header, gs) ← readBlockHeader gs
  let gs ← Glyphs.toLineEnd? gs
  let written := (header.indent?.map fun n => (max outer 0).toNat + n).getD 0
  let (widest, breaks, gs) ← readBlockStart written 0 [] gs
  let indent := if written = 0 then max widest (max (outer + 1).toNat 1) else written
  let (b, rest) ← readBlockLines literal indent ⟨[], [], breaks, false⟩ false gs
  let ending :=
    match header.chomping with
    | .strip => []
    | .clip => b.lineBreak
    | .keep => b.emptyLines ++ b.lineBreak
  return ⟨String.ofList (ending ++ b.text).reverse, rest, true⟩

end Prebuild.Yaml
