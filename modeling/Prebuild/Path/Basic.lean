import Prebuild.Path.Name
import Prebuild.Text.Utf8

/-!
# Paths

A path is a sequence of bytes. Slashes cut it into pieces, and most pieces stand for a
component: a leading empty piece for the top directory, `..` for the directory above, a name
for an entry. Empty pieces elsewhere and `.` stand for nothing, except that a path which
begins with `.` keeps that as a component. So `a//b/.` and `a/b` have the same components
and are different paths: operations that cut a path short return the bytes that remain, and
messages show paths as they were put together.
-/

namespace Prebuild

structure Path where
  bytes : List UInt8
deriving DecidableEq

namespace Path

/-- The path a text spells. -/
def ofString (s : String) : Path := ⟨Text.encode s⟩

/-- The path as a message shows it. -/
def display (p : Path) : String := Text.display p.bytes

def empty : Path := ⟨[]⟩

/-- The path `.`, the directory a path starts from. -/
def here : Path := ⟨[dot]⟩

/-- Whether the path starts from the top directory. -/
def isAbsolute (p : Path) : Bool := p.bytes.head? = some slash

/-- Whether the path ends in a slash. -/
def endsInSlash (p : Path) : Bool := p.bytes.getLast? = some slash

/-- The path `q`, started from `p`. An absolute path is not moved; an empty one leaves a
slash at the end. -/
def join (p q : Path) : Path :=
  if q.isAbsolute then q
  else if p.bytes.isEmpty || p.endsInSlash then ⟨p.bytes ++ q.bytes⟩
  else ⟨p.bytes ++ slash :: q.bytes⟩

/-! ## Pieces -/

inductive Component where
  | top
  | here
  | up
  | name (n : Name)
deriving DecidableEq

/-- A stretch between slashes, and the component it stands for, if any. -/
structure Piece where
  bytes : List UInt8
  component? : Option Component

/-- The stretches between slashes; at least one. -/
def cut : List UInt8 → List (List UInt8)
  | [] => [[]]
  | b :: bs =>
    if b = slash then [] :: cut bs
    else
      match cut bs with
      | [] => [[b]]
      | s :: ss => (b :: s) :: ss

/-- A piece that is not the first. -/
def Piece.inner (bytes : List UInt8) : Piece :=
  ⟨bytes, if bytes = [dot, dot] then some .up else (Name.ofBytes? bytes).map .name⟩

/-- The first piece of a path; `alone` tells whether no slash follows it. -/
def Piece.first (alone : Bool) (bytes : List UInt8) : Piece :=
  if bytes = [dot] then ⟨bytes, some .here⟩
  else if bytes = [] ∧ !alone then ⟨bytes, some .top⟩
  else .inner bytes

def pieces (p : Path) : List Piece :=
  match cut p.bytes with
  | [] => []
  | s :: ss => .first ss.isEmpty s :: ss.map .inner

/-- The path with the given pieces. -/
def ofPieces (ps : List Piece) : Path :=
  match ps with
  | [⟨_, some .top⟩] => ⟨[slash]⟩
  | _ => ⟨[slash].intercalate (ps.map (·.bytes))⟩

/-- The pieces up to the last that stands for a component. -/
def dropIdleEnd (ps : List Piece) : List Piece :=
  (ps.reverse.dropWhile (·.component?.isNone)).reverse

/-- The pieces from the first that stands for a component. -/
def dropIdleStart (ps : List Piece) : List Piece :=
  ps.dropWhile (·.component?.isNone)

/-- What the pieces of a path stand for, in order. -/
def components (p : Path) : List Component := p.pieces.filterMap (·.component?)

/-! ## Cutting paths short -/

/-- The path without its last component, if that is not the top directory. -/
def parent? (p : Path) : Option Path :=
  match (dropIdleEnd p.pieces).reverse with
  | [] => none
  | last :: before =>
    if last.component? = some .top then none
    else some (ofPieces (dropIdleEnd before.reverse))

/-- The paths of the directories a path leads through, the path itself first, the nearest to
the start last. Neither the top directory nor the start is among them. -/
def ancestors (p : Path) : List Path := go p.pieces.reverse
where
  /-- The pieces are given from the last to the first. -/
  go : List Piece → List Path
    | [] => []
    | piece :: before =>
      match piece.component? with
      | none => go before
      | some .top => []
      | some _ => ofPieces (piece :: before).reverse :: go before

/-- The name of the entry that a path ends with. -/
def fileName? (p : Path) : Option Name :=
  match p.components.getLast? with
  | some (.name n) => some n
  | _ => none

/-- The extension of the entry that a path ends with. -/
def extension? (p : Path) : Option (List UInt8) := p.fileName?.bind Name.extension?

/-- The pieces that are left once their first components were matched with the given ones. -/
def dropComponents : List Piece → List Component → Option (List Piece)
  | ps, [] => some ps
  | [], _ :: _ => none
  | p :: ps, c :: cs =>
    match p.component? with
    | none => dropComponents ps (c :: cs)
    | some d => if d = c then dropComponents ps cs else none

/-- What remains of a path below `root`, if the components of `root` come first in it. -/
def below? (p root : Path) : Option Path :=
  (dropComponents p.pieces root.components).map fun ps =>
    ofPieces (dropIdleStart (dropIdleEnd ps))

end Path

/-- The path of an entry in the directory it is listed in. -/
def Name.toPath (n : Name) : Path := ⟨n.bytes⟩

end Prebuild
