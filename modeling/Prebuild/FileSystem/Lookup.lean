import Prebuild.FileSystem.Basic
import Prebuild.FileSystem.Refusal

/-!
# From paths to places

A path is followed step by step from the top directory or the working directory. Each step
starts from a directory; a name leads to that entry, and a symbolic link is replaced by the
steps of its target, which start where the link lies. At most forty links are followed, so a
circle of links is refused. A slash at the end asks for a directory, as if `.` followed it.

Whether an operation follows a link at the very end of a path depends on the operation:
reading does, while putting something under a name means the link itself. `ending` serves
the second kind and stops in front of the last name.
-/

namespace Prebuild

/-- One step along a path. -/
inductive Step where
  | stay
  | up
  | enter (name : Name)
deriving DecidableEq

/-- The bytes of a path that the operating system takes no more. -/
def Path.lengthLimit : Nat := 4096

/-- The bytes a name may have at most. -/
def Name.longest : Nat := 255

namespace Path

/-- The step a piece between slashes stands for. -/
def step? (bytes : List UInt8) : Option Step :=
  if bytes = [dot] then some .stay
  else if bytes = [dot, dot] then some .up
  else (Name.ofBytes? bytes).map .enter

/-- The steps along a path, apart from what a slash at its end asks for. -/
def plainSteps (p : Path) : List Step := (cut p.bytes).filterMap step?

/-- The steps along a path. -/
def steps (p : Path) : List Step :=
  p.plainSteps ++ if p.endsInSlash then [.stay] else []

/-- Refuses what is no path to the operating system at all. -/
def check (p : Path) : Except Refusal Unit :=
  if p.bytes.contains 0 then .error .nulInPath
  else if p.bytes.isEmpty then .error .notFound
  else if lengthLimit ≤ p.bytes.length then .error .nameTooLong
  else .ok ()

end Path

namespace FileSystem

/-- Where a path starts. -/
def start (fs : FileSystem) (p : Path) : Place := if p.isAbsolute then [] else fs.workingDirectory

/-- Takes steps from a place as long as they meet no link; `onLink` goes on from there. -/
def walkTo (fs : FileSystem) (onLink : Place → List Step → Except Refusal Place) :
    Place → List Step → Except Refusal Place
  | place, [] => .ok place
  | place, step :: steps =>
    match fs.node? place with
    | some (.directory es) =>
      match step with
      | .stay => fs.walkTo onLink place steps
      | .up => fs.walkTo onLink place.dropLast steps
      | .enter name =>
        if Name.longest < name.bytes.length then .error .nameTooLong
        else
          match es.lookup name with
          | none => .error .notFound
          | some (.link target) =>
            onLink (if target.isAbsolute then [] else place) (target.steps ++ steps)
          | some _ => fs.walkTo onLink (place ++ [name]) steps
    | _ => .error .notDirectory

/-- Takes steps from a place, with so many links at most. -/
def follow (fs : FileSystem) : Nat → Place → List Step → Except Refusal Place
  | 0 => fs.walkTo fun _ _ => .error .tooManyLinks
  | links + 1 => fs.walkTo (fs.follow links)

/-- The links that are followed at most. -/
def linkLimit : Nat := 40

/-- The place a path leads to, a link at its end followed. -/
def resolve (fs : FileSystem) (p : Path) : Except Refusal Place := do
  p.check
  fs.follow linkLimit (fs.start p) p.steps

/-- The node a path leads to, a link at its end followed. -/
def open? (fs : FileSystem) (p : Path) : Except Refusal Node := do
  let place ← fs.resolve p
  match fs.node? place with
  | some n => .ok n
  | none => .error .notFound

/-- Whether a path leads to anything. -/
def reaches (fs : FileSystem) (p : Path) : Bool := (fs.open? p).toBool

/-- Whether a path leads to a directory. -/
def reachesDirectory (fs : FileSystem) (p : Path) : Bool :=
  match fs.open? p with
  | .ok (.directory _) => true
  | _ => false

/-- Whether a path leads to a file. -/
def reachesFile (fs : FileSystem) (p : Path) : Bool :=
  match fs.open? p with
  | .ok (.file _) => true
  | _ => false

/-- The content of the file a path leads to. -/
def readBytes (fs : FileSystem) (p : Path) : Except Refusal ByteArray := do
  match ← fs.open? p with
  | .file content => .ok content
  | _ => .error .isDirectory

/-- The content of the file a path leads to, as text. -/
def readText (fs : FileSystem) (p : Path) : Except Refusal String := do
  match String.fromUTF8? (← fs.readBytes p) with
  | some s => .ok s
  | none => .error .notText

/-- An entry that a path names: the directory it is or would be in, and its name. -/
structure Slot where
  directory : Place
  name : Name

def Slot.place (s : Slot) : Place := s.directory ++ [s.name]

/-- The directory that steps lead to. -/
def enclosing (fs : FileSystem) (p : Path) (steps : List Step) : Except Refusal Place := do
  let place ← fs.follow linkLimit (fs.start p) steps
  match fs.node? place with
  | some (.directory _) => .ok place
  | _ => .error .notDirectory

/-- The entry that the last step of a path names, whether it exists or not. A path that ends
in `.` or `..`, or is the top directory, names no entry. -/
def ending (fs : FileSystem) (p : Path) : Except Refusal (Option Slot) := do
  p.check
  match p.plainSteps.reverse with
  | .enter name :: before =>
    let directory ← fs.enclosing p before.reverse
    if Name.longest < name.bytes.length then .error .nameTooLong
    else .ok (some ⟨directory, name⟩)
  | _ :: before =>
    let _ ← fs.enclosing p before.reverse
    .ok none
  | [] => .ok none

/-- The node a path leads to, a link at its end not followed unless a slash behind it asks
for a directory. -/
def inspect (fs : FileSystem) (p : Path) : Except Refusal Node := do
  if p.endsInSlash then fs.open? p
  else
    match ← fs.ending p with
    | none => fs.open? p
    | some slot =>
      match fs.node? slot.place with
      | some n => .ok n
      | none => .error .notFound

end FileSystem

end Prebuild
