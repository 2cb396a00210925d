import Prebuild.Assoc
import Prebuild.Path.Basic

/-!
# The file system as a tree

A node is a file with its content, a symbolic link with the path it stands for, or a
directory. A place in the tree is the list of names that leads to it from the top directory,
so it goes through no link; paths are turned into places by `FileSystem.Lookup`.

Two views of a tree matter. `node?` is the whole node at a place. `entry?` tells only what
sort of node it is and what it holds itself, so that a change below a directory does not
change the directory's entry.
-/

namespace Prebuild

inductive Node where
  | file (content : ByteArray)
  | link (target : Path)
  | directory (entries : List (Name × Node))

/-- The names that lead to a node from the top directory. -/
abbrev Place := List Name

/-- A node without what lies below it. -/
inductive Entry where
  | file (content : ByteArray)
  | link (target : Path)
  | directory

instance : DecidableEq Entry
  | .file a, .file b =>
    match ByteArray.instDecidableEq a b with
    | isTrue h => isTrue (congrArg Entry.file h)
    | isFalse h => isFalse fun e => h (Entry.file.inj e)
  | .link p, .link q =>
    match decEq p q with
    | isTrue h => isTrue (congrArg Entry.link h)
    | isFalse h => isFalse fun e => h (Entry.link.inj e)
  | .directory, .directory => isTrue rfl
  | .file _, .link _ | .file _, .directory | .link _, .file _ | .link _, .directory
  | .directory, .file _ | .directory, .link _ => isFalse (by simp)

namespace Node

def entry : Node → Entry
  | .file content => .file content
  | .link target => .link target
  | .directory _ => .directory

def isDirectory (n : Node) : Bool := n.entry = .directory

/-- The entries of a directory; other nodes have none. -/
def entries : Node → List (Name × Node)
  | .directory es => es
  | _ => []

/-- The node at a place below this one. -/
def at? (n : Node) : Place → Option Node
  | [] => some n
  | name :: place =>
    match n.entries.lookup name with
    | none => none
    | some child => child.at? place

/-- The tree with `new` at a place. What is missing on the way to the place is made a
directory. -/
def put (n : Node) (new : Node) : Place → Node
  | [] => new
  | name :: place =>
    let child := (n.entries.lookup name).getD (.directory [])
    .directory (Assoc.insert name (put child new place) n.entries)

/-- The tree without the node at a place, if there is one. -/
def erase (n : Node) : Place → Node
  | [] => n
  | [name] => .directory (Assoc.erase name n.entries)
  | name :: place =>
    match n.entries.lookup name with
    | none => n
    | some child => .directory (Assoc.insert name (child.erase place) n.entries)

mutual

/-- Everything below a node, with its place, a directory before what is in it. -/
def contents (place : Place) : Node → List (Place × Entry)
  | .directory es => contentsOf place es
  | _ => []

/-- The entries of a directory at `place`, each followed by everything below it. -/
def contentsOf (place : Place) : List (Name × Node) → List (Place × Entry)
  | [] => []
  | (name, n) :: es =>
    (place ++ [name], n.entry) :: contents (place ++ [name]) n ++ contentsOf place es

end

end Node

/-- A tree, and the directory that relative paths start from. -/
structure FileSystem where
  top : Node
  workingDirectory : Place

namespace FileSystem

/-- The node at a place. -/
def node? (fs : FileSystem) (place : Place) : Option Node := fs.top.at? place

/-- The node at a place, without what lies below it. -/
def entry? (fs : FileSystem) (place : Place) : Option Entry := (fs.node? place).map Node.entry

/-- The file system with `new` at a place. -/
def put (fs : FileSystem) (place : Place) (new : Node) : FileSystem :=
  { fs with top := fs.top.put new place }

/-- The file system without the node at a place. -/
def erase (fs : FileSystem) (place : Place) : FileSystem :=
  { fs with top := fs.top.erase place }

end FileSystem

end Prebuild
