import Prebuild.Event
import Prebuild.Source.ExportedClass

/-!
# Finding source files and their classes
-/

namespace Prebuild

/-- A class and the file that declares it. -/
structure SourceClass where
  name : String
  file : Path
deriving DecidableEq

namespace Source

/-- Whether a visit met a file with an extension. -/
def isSource (extension : String) (v : Visit) : Bool :=
  match v.entry with
  | .file _ => v.path.extension? = some (Text.encode extension)
  | _ => false

/-- The source files below a root, in the order of a walk. -/
def discover (fs : FileSystem) (root : Path) (extension : String) : Reported (List Path) :=
  match fs.walk root with
  | .error e => Reported.fail (.walk e)
  | .ok visits => do
    let files := (visits.filter (isSource extension)).map (·.path)
    Reported.report (.discovered files.length extension root)
    return files

/-- The names of the classes that a source text declares. Lines that declare none although
they begin as if they did are reported. -/
def classNames (source : String) : Reported (List String) :=
  let declarations := Declaration.ofSource source
  ⟨(declarations.filterMap Declaration.malformed?).map .skippedLine,
   .ok (declarations.filterMap Declaration.name?)⟩

/-- The classes that a source file declares. -/
def scan (fs : FileSystem) (file : Path) : Reported (List SourceClass) :=
  match fs.readText file with
  | .error e => Reported.fail (.unreadableSource file e)
  | .ok text => do return (← classNames text).map (⟨·, file⟩)

/-- The classes that several source files declare, file after file. -/
def scanAll (fs : FileSystem) : List Path → Reported (List SourceClass)
  | [] => return []
  | file :: files => do
    let classes ← scan fs file
    return classes ++ (← scanAll fs files)

end Source

end Prebuild
