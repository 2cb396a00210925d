import Prebuild.Command.Run

/-!
# The program

What the command line names on the disk is read into a tree, the command runs on the tree,
and what it changed there is written back. A project is read with everything in it and with
everything that links in it lead to. A file is written under another name first and then takes
its own.
-/

namespace Prebuild.Main

/-! ## Places on the disk -/

/-- The place that a path leads to from a place if there are no links on its way. -/
def placeOf (start : Place) (path : Path) : Place :=
  path.steps.foldl
    (fun place step =>
      match step with
      | .stay => place
      | .up => place.dropLast
      | .enter name => place ++ [name])
    (if path.isAbsolute then [] else start)

def pathOf (place : Place) : String :=
  "/" ++ "/".intercalate (place.map fun name => Text.display name.bytes)

/-! ## Reading -/

/-- Reads the node at a place, a link followed, and notes where the links below it lead.
There is none where a link leads nowhere. If `deep` does not hold, a directory is read without
its entries. -/
partial def readNode (deep : Bool) (place : Place) : StateT (List Place) IO (Option Node) := do
  let .ok path ← (IO.FS.realPath (pathOf place)).toBaseIO | return none
  match (← path.metadata).type with
  | .file => return some (.file (← IO.FS.readBinFile path))
  | .dir =>
    let mut entries : List (Name × Node) := []
    for e in ← if deep then path.readDir else pure #[] do
      if let some name := Name.ofBytes? (Text.encode e.fileName) then
        let child? ← do
          if (← e.path.symlinkMetadata).type matches .symlink then readLink (place ++ [name])
          else readNode deep (place ++ [name])
        if let some child := child? then entries := Assoc.insert name child entries
    return some (.directory entries)
  | _ => return none
where
  /-- Reads a link, which is kept with the path that it leads to in the end. -/
  readLink (place : Place) : StateT (List Place) IO (Option Node) := do
    let .ok path ← (IO.FS.realPath (pathOf place)).toBaseIO | return none
    let target := Path.ofString path.toString
    modify (placeOf [] target :: ·)
    return some (.link target)

/-- Reads what is at places, and at those that links lead to, into a tree. What is below a
place that was read before is not read again. -/
partial def readPlaces (deep : Bool) (before : List Place) (fs : FileSystem) :
    List Place → IO FileSystem
  | [] => return fs
  | place :: places => do
    if before.any (·.isPrefixOf place) then readPlaces deep before fs places
    else
      let (node?, linked) ← (readNode deep place).run []
      let fs := (node?.map (fs.put place)).getD fs
      readPlaces deep (place :: before) fs (linked ++ places)

/-- The files that a command line is about. -/
def readFiles (directory : Place) (line? : Option Command.CommandLine) : IO FileSystem := do
  let start := (⟨.directory [], directory⟩ : FileSystem).put directory (.directory [])
  match line? with
  | some (.run i) =>
    let fs ← readPlaces false [] start (i.namedFiles.map (placeOf directory))
    readPlaces true [] fs (i.action.root?.toList.map (placeOf directory))
  | _ => return start

/-- The variables that the program looks at. -/
def readVariables : IO Command.Variables :=
  Command.variableNames.filterMapM fun name => do
    return (← IO.getEnv name).map fun value => (name, Text.encode value)

/-! ## Writing -/

/-- Writes an entry to the disk. -/
def writeEntry (place : Place) : Entry → IO Unit
  | .directory => IO.FS.createDirAll (pathOf place)
  | .file content => do
    let path := pathOf place
    IO.FS.writeBinFile (path ++ ".tmp") content
    IO.FS.rename (path ++ ".tmp") path
  | .link _ => pure ()

/-- Writes what is in the second tree and not in the first to the disk. -/
def writeChanges (before after : FileSystem) : IO Unit := do
  for (place, entry) in after.top.contents [] do
    unless before.entry? place = some entry do writeEntry place entry

end Prebuild.Main

open Prebuild in
def main (args : List String) : IO UInt32 := do
  let directory := Main.placeOf [] (.ofString (← IO.currentDir).toString)
  let vars ← Main.readVariables
  let arguments := args.map Text.encode
  let files ← Main.readFiles directory (Command.readLine vars arguments)
  let ending := Command.execute files vars arguments
  Main.writeChanges files ending.files
  (← IO.getStdout).putStr ending.output
  let stderr ← IO.getStderr
  for event in ending.events do
    stderr.putStrLn ("[" ++ event.level.name.toUpper ++ "] " ++ event.message)
  stderr.putStr ending.errors
  return ending.status.toUInt32
