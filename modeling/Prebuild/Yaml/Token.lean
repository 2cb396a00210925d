import Prebuild.Text.Utf8
import Prebuild.Yaml.Block

/-!
# Tokens

The tokens of a document name what its layout means: where a block collection starts and
ends is read off the columns, and a key without an indicator is recognised when the colon
behind it comes, so that tokens have to be put in front of ones already read.

A key of that sort must stand on one line and be short, so at each level of brackets there is
at most one candidate, and the position of a candidate that went stale is an error only where
nothing but a key could stand.
-/

namespace Prebuild.Yaml

inductive Token where
  | version (major minor : Nat)
  | tagHandle (handle : String) (beginning : List UInt8)
  | documentStart
  | documentEnd
  | blockSequence
  | blockMapping
  | blockEnd
  | flowSequence
  | flowSequenceEnd
  | flowMapping
  | flowMappingEnd
  | flowEntry
  | blockEntry
  | key
  | value
  | alias (name : String)
  | anchor (name : String)
  | tag (handle : String) (suffix : List UInt8)
  | scalar (text : String) (plain : Bool)
deriving DecidableEq

/-- A place where a key may have started. -/
structure Candidate where
  /-- whether nothing but a key may stand there -/
  required : Bool
  /-- how many tokens came before it -/
  number : Nat
  line : Nat
  column : Nat

/-- The state of reading tokens. -/
structure Scanner where
  tokens : Array Token
  /-- the column of the innermost block collection, -1 outside of all -/
  indent : Int
  /-- the columns of the block collections around it -/
  outer : List Int
  /-- the candidate of the block context, and of each level of brackets, innermost first -/
  candidates : List (Option Candidate)
  /-- whether a key may start here -/
  keyAllowed : Bool

namespace Scanner

def initial : Scanner := ⟨#[], -1, [], [none], true⟩

def inFlow (s : Scanner) : Bool := 1 < s.candidates.length

def add (s : Scanner) (t : Token) : Scanner := { s with tokens := s.tokens.push t }

def setCandidate (s : Scanner) (c : Option Candidate) : Scanner :=
  { s with candidates := c :: s.candidates.tail }

def candidate? (s : Scanner) : Option Candidate := s.candidates.head?.join

/-- Gives the current candidate up. -/
def dropCandidate (s : Scanner) : Option Scanner :=
  match s.candidate? with
  | some c => if c.required then none else some (s.setCandidate none)
  | none => some s

/-- Notes that a key may start at a glyph. -/
def noteCandidate (s : Scanner) (g : Glyph) : Option Scanner :=
  if !s.keyAllowed then some s
  else do
    let s ← s.dropCandidate
    return s.setCandidate (some
      ⟨!s.inFlow && s.indent = g.column, s.tokens.size, g.line, g.column⟩)

/-- Gives up the candidates that are on another line or too far back. -/
def dropStale (s : Scanner) (g : Glyph) : Option Scanner := do
  let candidates ← s.candidates.mapM fun c? =>
    match c? with
    | none => some none
    | some c =>
      if c.line < g.line || c.column + 1024 < g.column then
        if c.required then none else some none
      else some (some c)
  return { s with candidates }

/-- Opens a block collection at a column that is further in than the current one. Its token
goes in front of the token with the given number. -/
def openBlock (s : Scanner) (column : Nat) (number : Nat) (t : Token) : Scanner :=
  if s.inFlow || (column : Int) ≤ s.indent then s
  else
    { s with
      tokens := s.tokens.insertIdxIfInBounds number t
      indent := column
      outer := s.indent :: s.outer }

/-- Closes the block collections that are further in than a column. -/
def closeBlocks (column : Int) (s : Scanner) : Scanner :=
  if s.inFlow then s
  else
    let (inner, outer) := (s.indent :: s.outer).span (column < ·)
    { s with
      tokens := s.tokens ++ Array.replicate inner.length .blockEnd
      indent := outer.headD (-1)
      outer := outer.tail }

end Scanner

/-- Passes white space, comments and line breaks. A new line may start a key, and a tab may
not stand where a key could start. -/
def skipIdle (inFlow keyAllowed inComment : Bool) : Glyphs → Bool × Glyphs
  | [] => (keyAllowed, [])
  | g :: gs =>
    if g.isEnd then (keyAllowed, g :: gs)
    else if g.isBreak then skipIdle inFlow (keyAllowed || !inFlow) false gs
    else if inComment then skipIdle inFlow keyAllowed true gs
    else if g.char = ' ' || g.char = '\t' && (inFlow || !keyAllowed) ||
        g.char = '\uFEFF' && g.column = 0 then skipIdle inFlow keyAllowed false gs
    else if g.char = '#' then skipIdle inFlow keyAllowed true gs
    else (keyAllowed, g :: gs)

/-! ## Tags and directives -/

/-- Whether a character may stand in a tag. Commas and square brackets may only in one that
is written out between angle brackets. -/
def isTagChar (verbatim : Bool) (g : Glyph) : Bool :=
  g.isNameChar || ";/?:@&=+$.%!~*'()".toList.contains g.char ||
    (verbatim && ",[]".toList.contains g.char)

/-- The octets that `%` with two digits stands for, at the start of a text. -/
def readOctet (cs : List Char) : Option (UInt8 × List Char) :=
  match cs with
  | '%' :: a :: b :: cs => do return (UInt8.ofNat ((← hexDigit? a) * 16 + (← hexDigit? b)), cs)
  | _ => none

/-- How many octets a character has, by its first. -/
def octetCount? (b : UInt8) : Option Nat :=
  if b &&& 0x80 = 0x00 then some 1
  else if b &&& 0xE0 = 0xC0 then some 2
  else if b &&& 0xF0 = 0xE0 then some 3
  else if b &&& 0xF8 = 0xF0 then some 4
  else none

/-- Reads so many further octets of a character. -/
def readOctets : Nat → List Char → Option (List UInt8 × List Char)
  | 0, cs => some ([], cs)
  | n + 1, cs => do
    let (b, cs) ← readOctet cs
    if b &&& 0xC0 ≠ 0x80 then none
    else
      let (bs, cs) ← readOctets n cs
      return (b :: bs, cs)

/-- The octets of a tag, its escapes resolved. There are no more steps than characters. -/
def tagOctets : Nat → List Char → Option (List UInt8)
  | 0, _ => some []
  | _ + 1, [] => some []
  | steps + 1, '%' :: cs => do
    let (b, rest) ← readOctet ('%' :: cs)
    let n ← octetCount? b
    let (bs, rest) ← readOctets (n - 1) rest
    return b :: bs ++ (← tagOctets steps rest)
  | steps + 1, c :: cs => do
    return Text.encode (String.singleton c) ++ (← tagOctets steps cs)

/-- Reads a handle: `!`, name characters, and another `!` if there is one. -/
def readHandle (gs : Glyphs) : Option (String × Glyphs) :=
  match gs with
  | [] => none
  | g :: gs =>
    if g.char ≠ '!' then none
    else
      let (name, rest) := Glyphs.span (·.isNameChar) gs
      if Glyphs.charAt rest 0 = '!' then some ("!" ++ name ++ "!", rest.tail)
      else some ("!" ++ name, rest)

/-- Reads the characters of a tag; at least one, unless something stands before them. A NUL
written as an escape ends the tag early. -/
def readTagText (verbatim : Bool) (before : String) (gs : Glyphs) :
    Option (List UInt8 × Glyphs) := do
  let (written, rest) := Glyphs.span (isTagChar verbatim) gs
  if before.isEmpty && written.isEmpty then none
  else
    let octets ← tagOctets written.length written.toList
    return ((Text.encode before ++ octets).takeWhile (· ≠ 0), rest)

/-- Reads a tag written out between angle brackets. -/
def readVerbatimTag (gs : Glyphs) : Option (Token × Glyphs) := do
  let (suffix, rest) ← readTagText true "" (gs.drop 2)
  if Glyphs.charAt rest 0 = '>' then some (.tag "" suffix, rest.tail) else none

/-- Reads a tag that is a handle with a suffix, or `!` with a suffix. A lone `!` is a tag of
its own. -/
def readShortTag (gs : Glyphs) : Option (Token × Glyphs) := do
  let (handle, rest) ← readHandle gs
  if 1 < handle.length && handle.endsWith "!" then
    let (suffix, rest) ← readTagText false "" rest
    return (.tag handle suffix, rest)
  else
    let (tag, rest) ← readTagText false handle rest
    match tag.tail with
    | [] => return (.tag "" tag, rest)
    | suffix => return (.tag "!" suffix, rest)

/-- Reads a tag, and makes sure that it ends where a word does. -/
def readTag (inFlow : Bool) (gs : Glyphs) : Option (Token × Glyphs) := do
  let (token, rest) ← if Glyphs.charAt gs 1 = '<' then readVerbatimTag gs else readShortTag gs
  if inFlow && Glyphs.charAt rest 0 = ',' || Glyphs.wordEndsAt rest 0 then some (token, rest)
  else none

/-- Reads a decimal number of at most nine digits. -/
def readVersionNumber (gs : Glyphs) : Option (Nat × Glyphs) :=
  let (digits, rest) := Glyphs.span (·.char.isDigit) gs
  if digits.isEmpty || 9 < digits.length then none else digits.toNat?.map (·, rest)

/-- Reads the version that a directive gives. -/
def readVersion (gs : Glyphs) : Option (Token × Glyphs) := do
  let (major, rest) ← readVersionNumber gs
  if Glyphs.charAt rest 0 = '.' then
    let (minor, rest) ← readVersionNumber rest.tail
    return (.version major minor, rest)
  else none

/-- Reads the handle that a directive declares, and what it stands for. -/
def readTagHandle (gs : Glyphs) : Option (Token × Glyphs) := do
  let (handle, rest) ← readHandle gs
  if handle ≠ "!" && !(1 < handle.length && handle.endsWith "!") then none
  else if !(rest.head?.map (·.isBlank)).getD false then none
  else
    let (beginning, rest) ← readTagText true "" (rest.dropWhile (·.isBlank))
    if Glyphs.wordEndsAt rest 0 then return (.tagHandle handle beginning, rest) else none

/-- Reads a directive behind its `%`. -/
def readDirective (gs : Glyphs) : Option (Token × Glyphs) := do
  let (name, rest) := Glyphs.span (·.isNameChar) gs
  if !Glyphs.wordEndsAt rest 0 then none
  else
    let content := rest.dropWhile (·.isBlank)
    let (token, rest) ←
      if name = "YAML" then readVersion content
      else if name = "TAG" then readTagHandle content
      else none
    some (token, ← Glyphs.toLineEnd? rest)

/-- Reads the name of an anchor or an alias behind its indicator. -/
def readAnchor (gs : Glyphs) : Option (String × Glyphs) :=
  let (name, rest) := Glyphs.span (·.isNameChar) gs
  if name.isEmpty then none
  else if Glyphs.wordEndsAt rest 0 || "?:,]\x7d%@`".toList.contains (Glyphs.charAt rest 0) then
    some (name, rest)
  else none

/-! ## One token after the other -/

namespace Scanner

/-- Ends all block collections, as a document's end does. -/
def closeAll (s : Scanner) : Option Scanner := do
  let s ← (s.closeBlocks (-1)).dropCandidate
  return { s with keyAllowed := false }

/-- Starts brackets. -/
def openFlow (s : Scanner) (g : Glyph) (t : Token) : Option Scanner := do
  let s ← s.noteCandidate g
  return { s.add t with candidates := none :: s.candidates, keyAllowed := true }

/-- Ends brackets, also where none are open. -/
def closeFlow (s : Scanner) (t : Token) : Option Scanner := do
  let s ← s.dropCandidate
  let candidates := if s.inFlow then s.candidates.tail else s.candidates
  return { s.add t with candidates, keyAllowed := false }

/-- Starts an item of a sequence in a block. -/
def blockEntry (s : Scanner) (g : Glyph) : Option Scanner := do
  if !s.inFlow && !s.keyAllowed then none
  else
    let s ← (s.openBlock g.column s.tokens.size .blockSequence).dropCandidate
    return { s.add .blockEntry with keyAllowed := true }

/-- Starts a key that is marked as such. -/
def markedKey (s : Scanner) (g : Glyph) : Option Scanner := do
  if !s.inFlow && !s.keyAllowed then none
  else
    let s ← (s.openBlock g.column s.tokens.size .blockMapping).dropCandidate
    return { s.add .key with keyAllowed := !s.inFlow }

/-- Starts a value. A candidate turns out to be its key. -/
def startValue (s : Scanner) (g : Glyph) : Option Scanner :=
  match s.candidate? with
  | some c =>
    let s := { s with tokens := s.tokens.insertIdxIfInBounds c.number .key }
    let s := (s.openBlock c.column c.number .blockMapping).setCandidate none
    some { s.add .value with keyAllowed := false }
  | none =>
    if !s.inFlow && !s.keyAllowed then none
    else
      let s := s.openBlock g.column s.tokens.size .blockMapping
      some { s.add .value with keyAllowed := !s.inFlow }

/-- Notes a candidate for a token that may be a key and behind which none may start. -/
def beforeContent (s : Scanner) (g : Glyph) : Option Scanner := do
  return { ← s.noteCandidate g with keyAllowed := false }

/-- Whether a plain scalar may start here. -/
def startsPlain (s : Scanner) (gs : Glyphs) : Bool :=
  match gs with
  | [] => false
  | g :: rest =>
    let next := (rest.head?.map (·.isBlank)).getD false
    !(g.endsWord || "-?:,[]\x7b\x7d#&*!|>'\"%@`".toList.contains g.char) ||
      g.char = '-' && !next ||
      !s.inFlow && (g.char = '?' || g.char = ':') && !Glyphs.wordEndsAt rest 0

/-- Adds a scalar that was read. -/
def addScalar (s : Scanner) (plain : Bool) (r : Read) : Scanner × Glyphs :=
  ({ s.add (.scalar r.text plain) with keyAllowed := s.keyAllowed || r.brokeOff }, r.rest)

/-- Reads the token that starts with the first glyph. -/
def readToken (s : Scanner) (gs : Glyphs) : Option (Scanner × Glyphs) :=
  match gs with
  | [] => none
  | g :: rest =>
    let c := g.char
    let indicates := Glyphs.wordEndsAt rest 0
    if g.column = 0 && c = '%' then do
      let s ← s.closeAll
      let (token, rest) ← readDirective rest
      return (s.add token, rest)
    else if Glyphs.isMarker gs '-' then do return ((← s.closeAll).add .documentStart, gs.drop 3)
    else if Glyphs.isMarker gs '.' then do return ((← s.closeAll).add .documentEnd, gs.drop 3)
    else if c = '[' then do return (← s.openFlow g .flowSequence, rest)
    else if c = '\x7b' then do return (← s.openFlow g .flowMapping, rest)
    else if c = ']' then do return (← s.closeFlow .flowSequenceEnd, rest)
    else if c = '\x7d' then do return (← s.closeFlow .flowMappingEnd, rest)
    else if c = ',' then do
      return ({ (← s.dropCandidate).add .flowEntry with keyAllowed := true }, rest)
    else if c = '-' && indicates then do return (← s.blockEntry g, rest)
    else if c = '?' && (s.inFlow || indicates) then do return (← s.markedKey g, rest)
    else if c = ':' && (s.inFlow || indicates) then do return (← s.startValue g, rest)
    else if c = '*' then do
      let s ← s.beforeContent g
      let (name, rest) ← readAnchor rest
      return (s.add (.alias name), rest)
    else if c = '&' then do
      let s ← s.beforeContent g
      let (name, rest) ← readAnchor rest
      return (s.add (.anchor name), rest)
    else if c = '!' then do
      let s ← s.beforeContent g
      let (token, rest) ← readTag s.inFlow gs
      return (s.add token, rest)
    else if (c = '|' || c = '>') && !s.inFlow then do
      let s ← s.dropCandidate
      return { s with keyAllowed := true }.addScalar false (← readBlock (c = '|') s.indent rest)
    else if c = '\'' then do
      return (← s.beforeContent g).addScalar false (← readSingleQuoted [] .none rest)
    else if c = '"' then do
      return (← s.beforeContent g).addScalar false (← readDoubleQuoted [] .none none rest)
    else if s.startsPlain gs then do
      return (← s.beforeContent g).addScalar true
        (← readPlain s.inFlow (s.indent + 1) [] .none gs)
    else none

/-- Reads tokens up to the end. Each takes a glyph at least, so there are no more than
`steps` if that many glyphs are left. -/
def readTokens : Nat → Scanner → Glyphs → Option (Array Token)
  | 0, _, _ => none
  | steps + 1, s, gs => do
    let (keyAllowed, gs) := skipIdle s.inFlow s.keyAllowed false gs
    let g ← gs.head?
    let s ← { s with keyAllowed }.dropStale g
    let s := s.closeBlocks g.column
    if g.isEnd then
      let s ← s.closeAll
      return s.tokens
    else
      let (s, gs) ← s.readToken gs
      s.readTokens steps gs

end Scanner

/-- The tokens of a text, if its layout is well formed. -/
def tokens? (text : String) : Option (List Token) := do
  let gs ← Glyph.ofText? text
  return (← Scanner.readTokens (gs.length + 1) .initial gs).toList

end Prebuild.Yaml
