import Prebuild.FileSystem.Lookup

/-!
# Walking a directory tree

A walk visits a directory before its entries and the entries in the order of their names,
whatever order the directory lists them in. It goes into directories but through no link; a
link at the root of the walk alone is followed, if it leads to a directory. The path of each
visited node is the root's path with the names joined to it.
-/

namespace Prebuild

/-- A node met on a walk. -/
structure Visit where
  path : Path
  entry : Entry

/-- A path that a walk could not look at, and why. -/
structure WalkFault where
  path : Path
  refusal : Refusal
deriving DecidableEq

def WalkFault.message (f : WalkFault) : String :=
  "IO error for operation on " ++ f.path.display ++ ": " ++ f.refusal.message

/-- The visits of several walks one after the other, up to the first that fails. -/
def joinWalks : List (Except WalkFault (List Visit)) → Except WalkFault (List Visit)
  | [] => .ok []
  | .error e :: _ => .error e
  | .ok vs :: ws => (joinWalks ws).map (vs ++ ·)

namespace Node

mutual

/-- What is below a directory that is reached as `path`. The listing is asked for by that
path, which can have grown too long for it. -/
def walkBelow (path : Path) : Node → Except WalkFault (List Visit)
  | .directory es =>
    if Path.lengthLimit ≤ path.bytes.length then .error ⟨path, .nameTooLong⟩
    else joinWalks ((Assoc.ofList (walkEntries path es)).map (·.2))
  | _ => .ok []

/-- The walk through each entry of a directory, beside the entry's name. -/
def walkEntries (path : Path) :
    List (Name × Node) → List (Name × Except WalkFault (List Visit))
  | [] => []
  | (name, n) :: es =>
    let below := path.join name.toPath
    (name, (n.walkBelow below).map (⟨below, n.entry⟩ :: ·)) :: walkEntries path es

end

end Node

namespace FileSystem

/-- The visits of a walk from a root. -/
def walk (fs : FileSystem) (root : Path) : Except WalkFault (List Visit) :=
  match fs.inspect root with
  | .error e => .error ⟨root, e⟩
  | .ok n =>
    match n with
    | .link _ =>
      match fs.open? root with
      | .error e => .error ⟨root, e⟩
      | .ok target => (target.walkBelow root).map (⟨root, n.entry⟩ :: ·)
    | _ => (n.walkBelow root).map (⟨root, n.entry⟩ :: ·)

end FileSystem

end Prebuild
