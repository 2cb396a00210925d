import Prebuild.FileSystem.Lookup

/-!
# Changing the file system

The operations that make, replace and remove entries. Each returns the file system as it is
afterwards together with how it ended, since an operation of several parts may have made
directories before it was refused.

`replaceFile` writes a file as a whole: the content goes into a new file beside the target,
which then takes the target's name in one step. Whoever reads the target sees the old entry
or the new content and nothing between.

Whether directories and files can be made and renamed can be told from the tree. Whether there
is room for all of a content cannot: a write may be stopped anywhere (`Stop`).
-/

namespace Prebuild

namespace FileSystem

/-- Makes a directory where nothing is. -/
def makeDirectory (fs : FileSystem) (p : Path) : Except Refusal FileSystem := do
  match ← fs.ending p with
  | none => .error .exists
  | some slot =>
    match fs.node? slot.place with
    | some _ => .error .exists
    | none => .ok (fs.put slot.place (.directory []))

/-- Makes the first of the directories, and before it as many of the others as it needs. -/
def makeFirst (fs : FileSystem) : List Path → FileSystem × Except Refusal Unit
  | [] => (fs, .ok ())
  | p :: above =>
    match fs.makeDirectory p with
    | .ok fs' => (fs', .ok ())
    | .error .notFound =>
      match fs.makeFirst above with
      | (fs', .error e) => (fs', .error e)
      | (fs', .ok ()) =>
        match fs'.makeDirectory p with
        | .ok fs'' => (fs'', .ok ())
        | .error e => (fs', if fs'.reachesDirectory p then .ok () else .error e)
    | .error e => (fs, if fs.reachesDirectory p then .ok () else .error e)

/-- Makes the directory a path names and those it leads through. One that exists will do. -/
def makeDirectories (fs : FileSystem) (p : Path) : FileSystem × Except Refusal Unit :=
  fs.makeFirst p.ancestors

/-- Gives the file in `slot` the name that `p` ends with, in place of a file or a link. -/
def rename (fs : FileSystem) (slot : Slot) (p : Path) : Except Refusal FileSystem := do
  if p.bytes.contains 0 then .error .invalidArgument
  match fs.node? slot.place, ← fs.ending p with
  | none, _ => .error .notFound
  | some _, none => .error .busy
  | some n, some target =>
    if p.endsInSlash then .error .notDirectory
    else
      match fs.node? target.place with
      | some (.directory _) => .error .isDirectory
      | _ => .ok ((fs.erase slot.place).put target.place n)

/-- The names tried for a file that is only there while another is written. -/
def temporaryName (n : Nat) : List UInt8 :=
  Text.encode (".tmp" ++ String.ofList (List.replicate (6 - (Nat.toDigits 10 n).length) '0' ++
    Nat.toDigits 10 n))

/-- The first of the names from the `n`th on that is not taken. Among more names than there
are entries one is free. -/
def freeName (taken : List Name) : Nat → Nat → List UInt8
  | 0, n => temporaryName n
  | tries + 1, n =>
    if taken.any fun t => t.bytes = temporaryName n then freeName taken tries (n + 1)
    else temporaryName n

/-- Makes an empty file under a name of its own in a directory. -/
def makeTemporary (fs : FileSystem) (directory : Path) : Except Refusal (FileSystem × Slot) := do
  let names :=
    match fs.open? directory with
    | .ok n => n.entries.map (·.1)
    | .error _ => []
  match ← fs.ending (directory.join ⟨freeName names names.length 0⟩) with
  | none => .error .exists
  | some slot =>
    match fs.node? slot.place with
    | some _ => .error .exists
    | none => .ok (fs.put slot.place (.file .empty), slot)

end FileSystem

/-- Where a write is stopped, and why. If no byte is missing by then, it is stopped before what
was written is known to have arrived. -/
structure Stop where
  /-- how many bytes are written -/
  after : Nat
  refusal : Refusal

namespace FileSystem

/-- Writes a content into the file in `slot`. If it is stopped, what is written by then stays. -/
def writeContent (fs : FileSystem) (slot : Slot) (content : ByteArray) (stop? : Option Stop) :
    FileSystem × Except Refusal Unit :=
  match stop? with
  | none => (fs.put slot.place (.file content), .ok ())
  | some stop =>
    (fs.put slot.place (.file (content.extract 0 stop.after)), .error stop.refusal)

end FileSystem

/-- What went wrong while a file was replaced. -/
inductive WriteFault where
  | makeDirectory (directory : Path) (refusal : Refusal)
  | makeTemporary (directory : Path) (refusal : Refusal)
  | write (file : Path) (refusal : Refusal)
  | replace (file : Path) (refusal : Refusal)
deriving DecidableEq

def WriteFault.message : WriteFault → String
  | .makeDirectory d r => "Failed to create directory '" ++ d.display ++ "': " ++ r.message
  | .makeTemporary d r =>
    "Failed to create temporary file in '" ++ d.display ++ "': " ++ r.message
  | .write f r => "Failed to write '" ++ f.display ++ "': " ++ r.message
  | .replace f r => "Failed to replace '" ++ f.display ++ "': " ++ r.message

/-- The directory a file is written in. -/
def Path.directory (p : Path) : Path :=
  match p.parent? with
  | some d => if d.bytes.isEmpty then .here else d
  | none => .here

namespace FileSystem

/-- Writes a file as a whole, and the directories that lead to it. Nothing stays of a temporary
file that was not written to the end, or not given the name. -/
def replaceFile (fs : FileSystem) (p : Path) (text : String) (stop? : Option Stop := none) :
    FileSystem × Except WriteFault Unit :=
  match fs.makeDirectories p.directory with
  | (fs', .error e) => (fs', .error (.makeDirectory p.directory e))
  | (fs', .ok ()) =>
    match fs'.makeTemporary p.directory with
    | .error e => (fs', .error (.makeTemporary p.directory e))
    | .ok (withTemporary, slot) =>
      match withTemporary.writeContent slot text.toUTF8 stop? with
      | (partly, .error e) => (partly.erase slot.place, .error (.write p e))
      | (wholly, .ok ()) =>
        match wholly.rename slot p with
        | .ok fs'' => (fs'', .ok ())
        | .error e => (wholly.erase slot.place, .error (.replace p e))

/-- Puts a node where a path leads, and makes the directories on the way. Where the path
leads to a file, that file gets the new content. -/
def place (fs : FileSystem) (p : Path) (n : Node) : FileSystem :=
  let fs := (fs.makeDirectories p.directory).1
  match n, fs.resolve p with
  | .file _, .ok place => fs.put place n
  | _, _ =>
    match fs.ending p with
    | .ok (some slot) => fs.put slot.place n
    | _ => fs

/-- Takes the entry a path names away, with everything below it. -/
def remove (fs : FileSystem) (p : Path) : FileSystem :=
  match fs.ending p with
  | .ok (some slot) => fs.erase slot.place
  | _ => fs

end FileSystem

end Prebuild
