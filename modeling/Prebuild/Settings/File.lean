import Prebuild.Failure

/-!
# Settings files

A project may hold a settings file under a fixed name. Another file may be named in its place,
which then has to exist.
-/

namespace Prebuild.Settings

/-- The settings that a text spells. -/
def parse (text : String) : Except Failure Settings :=
  match Yaml.read text with
  | none => .error .notYaml
  | some v => (ofValue v).mapError .settings

/-- The settings in a file. -/
def ofFile (fs : FileSystem) (file : Path) : Except Failure Settings :=
  match fs.readText file with
  | .error e => .error (.settings (.unreadable file e))
  | .ok text => parse text

/-- The settings of a project: those in the file that is named, else those in the project's
own file, else the conventional ones. -/
def load (fs : FileSystem) (project : Path) (named : Option Path) : Except Failure Settings :=
  match named with
  | some file => ofFile fs file
  | none =>
    let file := project.join (.ofString fileName)
    if fs.reachesFile file then ofFile fs file else .ok conventional

end Prebuild.Settings
