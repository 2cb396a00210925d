import Prebuild.Configuration
import Prebuild.Manifest
import Prebuild.Settings.File

/-!
# The generator

A generator belongs to one run of a build tool. Before each compilation it renders the two
generated modules and writes those whose text differs from the one it wrote last, so that an
unchanged module is left alone and does not set off another compilation. It compares with
what it wrote itself, never with the file: a module that someone else has changed or removed
is not restored as long as its text stays the same.

In a dry run nothing is written, and nothing counts as written.
-/

namespace Prebuild

/-- The modules that are generated. -/
inductive Product where
  | config
  | manifest
deriving DecidableEq

def Product.other : Product → Product
  | .config => .manifest
  | .manifest => .config

structure Generator where
  sourceRoot : Path
  environment : String
  settings : Settings
  dryRun : Bool
  /-- the text of the configuration module that was written last -/
  lastConfig : Option String
  /-- the text of the manifest module that was written last -/
  lastManifest : Option String

/-- How a pass over one product ended. -/
inductive Outcome where
  | written (file : Path) (bytes : Nat)
  | unchanged (file : Path)
deriving DecidableEq

def Outcome.isWritten : Outcome → Bool
  | .written _ _ => true
  | .unchanged _ => false

/-- How the passes over both products ended. -/
structure PassReport where
  config : Outcome
  manifest : Outcome
deriving DecidableEq

/-- How many products were written. -/
def PassReport.writes (r : PassReport) : Nat :=
  r.config.isWritten.toNat + r.manifest.isWritten.toNat

/-- How the two passes before a compilation come about. They are begun together, and either may be
made first. -/
structure Schedule where
  first : Product := .config
  /-- where the writes are stopped, if they are -/
  stop? : Product → Option Stop := fun _ => none

/-- What a step of a generator leaves behind. -/
structure Turn (α : Type) where
  generator : Generator
  files : FileSystem
  reported : Reported α

namespace Generator

/-- The environment of a generator where none is named. -/
def defaultEnvironment : String := "local"

/-- A generator for a project, which has written nothing yet. -/
def fresh (project : Path) (environment : String) (settings : Settings) (dryRun : Bool) :
    Generator where
  sourceRoot := settings.sourceRoot project
  environment
  settings
  dryRun
  lastConfig := none
  lastManifest := none

/-- The text of a product that was written last. -/
def last (g : Generator) : Product → Option String
  | .config => g.lastConfig
  | .manifest => g.lastManifest

/-- Notes the text of a product that was written. -/
def record (g : Generator) (text : String) : Product → Generator
  | .config => { g with lastConfig := some text }
  | .manifest => { g with lastManifest := some text }

/-- The file a product is written to. -/
def target (g : Generator) : Product → Path
  | .config => g.settings.configModuleIn g.sourceRoot
  | .manifest => g.settings.manifestModuleIn g.sourceRoot

/-- The text of a product, from the files as they are. -/
def render (g : Generator) (fs : FileSystem) : Product → Reported String
  | .config => do
    let paths := g.settings.fragmentsIn g.sourceRoot
    return Configuration.moduleText (← Configuration.assemble fs paths g.environment)
  | .manifest => do return (← Manifest.build fs g.sourceRoot g.settings).moduleText

/-- Writes a text that was rendered, unless it is the one that was written last. -/
def emit (g : Generator) (fs : FileSystem) (p : Product) (text : String)
    (stop? : Option Stop := none) : Turn Outcome :=
  let file := g.target p
  let bytes := text.utf8ByteSize
  if g.last p = some text then ⟨g, fs, ⟨[.upToDate file], .ok (.unchanged file)⟩⟩
  else if g.dryRun then ⟨g, fs, ⟨[.wouldWrite file bytes], .ok (.written file bytes)⟩⟩
  else
    match fs.replaceFile file text stop? with
    | (fs', .error e) => ⟨g, fs', Reported.fail (.write e)⟩
    | (fs', .ok ()) => ⟨g.record text p, fs', ⟨[.wrote file bytes], .ok (.written file bytes)⟩⟩

/-- Renders a product and writes it if need be. -/
def generate (g : Generator) (fs : FileSystem) (p : Product) (stop? : Option Stop := none) :
    Turn Outcome :=
  let rendered := g.render fs p
  match rendered.result with
  | .error e => ⟨g, fs, ⟨rendered.events, .error e⟩⟩
  | .ok text =>
    let turn := g.emit fs p text stop?
    { turn with reported := ⟨rendered.events ++ turn.reported.events, turn.reported.result⟩ }

/-- What is reported of the two passes. Of two failures it is that of the configuration. -/
def joined : Except Failure Outcome → Except Failure Outcome → Except Failure PassReport
  | .error e, _ => .error e
  | .ok _, .error e => .error e
  | .ok config, .ok manifest => .ok ⟨config, manifest⟩

/-- Generates both products. The second is generated also if the first fails. -/
def beforeCompile (g : Generator) (fs : FileSystem) (schedule : Schedule := {}) :
    Turn PassReport :=
  let p := schedule.first
  let first := g.generate fs p (schedule.stop? p)
  let second := first.generator.generate first.files p.other (schedule.stop? p.other)
  let result :=
    match p with
    | .config => joined first.reported.result second.reported.result
    | .manifest => joined second.reported.result first.reported.result
  ⟨second.generator, second.files, ⟨first.reported.events ++ second.reported.events, result⟩⟩

end Generator

end Prebuild
