import Prebuild.Path.Basic

/-!
# Where a source file lies

A source file is known by the segments of its path below the source root, the extension of
the last left out. The first directory decides whether its classes are registered, and how:

* below `view` a class is registered under its own name;
* below `model` it is registered under the segments that follow, joined with dots, and
  imported under the same segments joined with low lines, so that two classes of one name in
  different directories can stand side by side;
* anywhere else, directly in the root included, it is not registered.
-/

namespace Prebuild

/-- The segments of a source file's path below the source root. -/
structure SourceLocation where
  segments : List String
deriving DecidableEq

/-- How a class takes part in the manifest. -/
inductive Role where
  | view (name : String)
  | model (key localName : String)
  | excluded
deriving DecidableEq, Repr

/-- Why a path is no location of a source file. -/
inductive LocationFault where
  | outsideRoot (file root : Path)
  | notText (file : Path)
  | strayComponent (remainder : Path)
  | isRoot (file : Path)
deriving DecidableEq

def LocationFault.message : LocationFault → String
  | .outsideRoot file root =>
    "'" ++ file.display ++ "' is not under source root '" ++ root.display ++ "'"
  | .notText file => "Non UTF-8 path: " ++ file.display
  | .strayComponent remainder => "Unexpected component in '" ++ remainder.display ++ "'"
  | .isRoot file => "'" ++ file.display ++ "' names the source root itself"

namespace SourceLocation

/-- The first directory of the views. -/
def viewDirectory : String := "view"

/-- The first directory of the models. -/
def modelDirectory : String := "model"

/-- What separates the segments of a model's key. -/
def keySeparator : String := "."

/-- What separates the segments of a model's alias. -/
def aliasSeparator : String := "_"

/-- A file name up to its last dot, provided that something precedes that dot. -/
def stem (fileName : String) : String :=
  match splitAtLast '.' fileName.toList with
  | some (c :: cs, _) => String.ofList (c :: cs)
  | _ => fileName

/-- The names among the components of what remains below the root. A leading `.` adds
nothing; any other component that is no name does not belong there. -/
def segments? (file remainder : Path) :
    List Path.Component → Except LocationFault (List String)
  | [] => .ok []
  | .here :: cs => segments? file remainder cs
  | .top :: _ => .error (.strayComponent remainder)
  | .up :: _ => .error (.strayComponent remainder)
  | .name n :: cs =>
    match Text.decode? n.bytes with
    | none => .error (.notText file)
    | some s => (segments? file remainder cs).map (s :: ·)

/-- The location of a file below a source root. Only the components of the two paths count. -/
def ofPath (file root : Path) : Except LocationFault SourceLocation :=
  match file.below? root with
  | none => .error (.outsideRoot file root)
  | some remainder =>
    match segments? file remainder remainder.components with
    | .error e => .error e
    | .ok names =>
      match names.reverse with
      | [] => .error (.isRoot file)
      | last :: directories => .ok ⟨directories.reverse ++ [stem last]⟩

/-- The first directory, absent for a file directly in the source root. -/
def directory? (l : SourceLocation) : Option String :=
  match l.segments with
  | d :: _ :: _ => some d
  | _ => none

/-- The text up to the slashes at its end. -/
def withoutEndSlashes (s : String) : String :=
  String.ofList (s.toList.reverse.dropWhile (· = '/')).reverse

/-- What an import of the file names it by, without its extension. -/
def specifier (l : SourceLocation) (importRoot : String) : String :=
  withoutEndSlashes importRoot ++ "/" ++ "/".intercalate l.segments

/-- How a class declared in the file takes part. -/
def role (l : SourceLocation) (className : String) : Role :=
  if l.directory? = some viewDirectory then .view className
  else if l.directory? = some modelDirectory then
    .model (keySeparator.intercalate l.segments.tail) (aliasSeparator.intercalate l.segments.tail)
  else .excluded

end SourceLocation

end Prebuild
