import Prebuild.Source.Discovery
import Prebuild.Json.Printer

/-!
# The manifest

The manifest lists the classes below the directories of views and models in the order in
which they were registered. Each registration gives an import statement, which binds a local
name, and an entry, which pairs a key with that name. The imports and the entries are lists of
their own, and go together one by one. Names and keys ought to be different; where they are not
the class is registered nevertheless and a warning is reported.
-/

namespace Prebuild

/-- How a class is imported. -/
structure Import where
  className : String
  alias? : Option String
  specifier : String
deriving DecidableEq

namespace Import

/-- The name that the import binds. -/
def localName (i : Import) : String := i.alias?.getD i.className

/-- The import statement. -/
def text (i : Import) : String :=
  let bound :=
    match i.alias? with
    | some a => i.className ++ " as " ++ a
    | none => i.className
  "import \x7b " ++ bound ++ " \x7d from \"" ++ i.specifier ++ "\";"

end Import

/-- A class in the manifest: its key, and how it is imported. -/
structure Registration where
  key : String
  imported : Import
deriving DecidableEq

namespace Registration

/-- How the manifest refers to the class. -/
def reference (r : Registration) : String := r.imported.localName

/-- The registration of a class, unless its location excludes it. -/
def ofClass? (sourceRoot : Path) (importRoot : String) (c : SourceClass) :
    Except LocationFault (Option Registration) :=
  match SourceLocation.ofPath c.file sourceRoot with
  | .error e => .error e
  | .ok location =>
    let specifier := location.specifier importRoot
    match location.role c.name with
    | .view name => .ok (some ⟨name, ⟨c.name, none, specifier⟩⟩)
    | .model key a => .ok (some ⟨key, ⟨c.name, some a, specifier⟩⟩)
    | .excluded => .ok none

/-- The key of the class, with the name that stands for it. -/
def entry (r : Registration) : String × String := (r.key, r.reference)

end Registration

/-- The imports and the entries, the earliest first. -/
structure Manifest where
  imports : List Import
  entries : List (String × String)
  /-- Each entry has the name that the import in its place binds. -/
  references : entries.map Prod.snd = imports.map Import.localName
deriving DecidableEq

namespace Manifest

def empty : Manifest := ⟨[], [], rfl⟩

def size (m : Manifest) : Nat := m.entries.length

/-- The name that a key stands for: that of the first entry with the key. -/
def get? (m : Manifest) (key : String) : Option String := m.entries.lookup key

/-- Whether an import binds a name. -/
def binds (m : Manifest) (name : String) : Bool := m.imports.any fun i => i.localName = name

def add (m : Manifest) (r : Registration) : Manifest where
  imports := m.imports ++ [r.imported]
  entries := m.entries ++ [r.entry]
  references := by
    rw [List.map_append, List.map_append, m.references]
    rfl

/-- What has to be reported about a registration before it is added. -/
def warnings (m : Manifest) (r : Registration) (file : Path) : List Event :=
  (if m.binds r.reference then [.alreadyImported r.reference file] else []) ++
    (if (m.get? r.key).isSome then [.registeredTwice r.key file] else [])

/-- Registers a class: the manifest behind that, and whether the class is in it. -/
def enter (m : Manifest) (sourceRoot : Path) (importRoot : String) (c : SourceClass) :
    Manifest × Reported Bool :=
  match Registration.ofClass? sourceRoot importRoot c with
  | .error e => (m, Reported.fail (.location e))
  | .ok none => (m, ⟨[.notRegistered c.name c.file], .ok false⟩)
  | .ok (some r) => (m.add r, ⟨m.warnings r c.file, .ok true⟩)

/-- Registers a class, and goes on with the manifest behind that if it does not fail. -/
def register (m : Manifest) (sourceRoot : Path) (importRoot : String) (c : SourceClass) :
    Reported Manifest :=
  let (m', registered) := m.enter sourceRoot importRoot c
  ⟨registered.events, registered.result.map fun _ => m'⟩

/-- Registers classes one after the other. -/
def registerAll (sourceRoot : Path) (importRoot : String) :
    Manifest → List SourceClass → Reported Manifest
  | m, [] => return m
  | m, c :: cs => do registerAll sourceRoot importRoot (← m.register sourceRoot importRoot c) cs

/-- The manifest of a source tree. All files are read before the first class is registered. -/
def build (fs : FileSystem) (sourceRoot : Path) (settings : Settings) : Reported Manifest := do
  let files ← Source.discover fs sourceRoot settings.sourceExtension
  let classes ← Source.scanAll fs files
  let m ← registerAll sourceRoot settings.importRoot empty classes
  Reported.report (.built sourceRoot m.size)
  return m

/-! ## The manifest module -/

/-- An entry in the list of entries. -/
def entryText (e : String × String) : String := "[" ++ Json.literal e.1 ++ ", " ++ e.2 ++ "]"

/-- The list of entries, one a line. -/
def entriesText (m : Manifest) : String :=
  if m.entries.isEmpty then "[]"
  else "[\n" ++ ",\n".intercalate (m.entries.map entryText) ++ "\n]"

/-- The module that carries the manifest. -/
def moduleText (m : Manifest) : String :=
  String.join (m.imports.map fun i => i.text ++ "\n") ++
    "const packages=" ++ m.entriesText ++ ";\nexport \x7b packages \x7d;"

end Manifest

end Prebuild
