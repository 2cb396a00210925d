import Prebuild.Path.Basic

/-!
# Where a project keeps what

The settings name the places the generator reads from and writes to, each relative to the one
it lies in: the source root to the project, the directory of the fragments and the manifest
module to the source root, the fragments and the configuration module to their directory.
Every setting has a conventional value. The two directories are paths, the others are texts.
-/

namespace Prebuild

structure Settings where
  sourceDirectory : Path
  configDirectory : Path
  configFragment : String
  stageFragment : String
  routingFragment : String
  configModule : String
  manifestModule : String
  sourceExtension : String
  /-- what imports in the manifest module start from -/
  importRoot : String
deriving DecidableEq

namespace Settings

/-- The conventional layout of a project. -/
def conventional : Settings where
  sourceDirectory := .ofString "src"
  configDirectory := .ofString "config"
  configFragment := "config.json"
  stageFragment := "stage.json"
  routingFragment := "routing.json"
  configModule := "Config.js"
  manifestModule := "Packages.js"
  sourceExtension := "js"
  importRoot := "/src"

/-- The file in a project that holds its settings. -/
def fileName : String := "autoloader.yaml"

inductive Field where
  | sourceDirectory
  | configDirectory
  | configFragment
  | stageFragment
  | routingFragment
  | configModule
  | manifestModule
  | sourceExtension
  | importRoot
deriving DecidableEq

namespace Field

def all : List Field :=
  [.sourceDirectory, .configDirectory, .configFragment, .stageFragment, .routingFragment,
   .configModule, .manifestModule, .sourceExtension, .importRoot]

/-- What a settings file calls the field. -/
def name : Field → String
  | .sourceDirectory => "source_dir"
  | .configDirectory => "config_dir"
  | .configFragment => "config_fragment"
  | .stageFragment => "stage_fragment"
  | .routingFragment => "routing_fragment"
  | .configModule => "config_module"
  | .manifestModule => "manifest_module"
  | .sourceExtension => "source_extension"
  | .importRoot => "import_root"

/-- The field that a settings file calls so. -/
def ofName? (s : String) : Option Field := all.find? fun f => f.name = s

/-- What the value of the field has to be, as a message says it. -/
def expectation : Field → String
  | .sourceDirectory | .configDirectory => "path string"
  | _ => "a string"

/-- What the values of the field are. -/
def Value : Field → Type
  | .sourceDirectory | .configDirectory => Path
  | _ => String

/-- The value that a text spells. -/
def ofText : (f : Field) → String → f.Value
  | .sourceDirectory, text | .configDirectory, text => Path.ofString text
  | .configFragment, text | .stageFragment, text | .routingFragment, text | .configModule, text
  | .manifestModule, text | .sourceExtension, text | .importRoot, text => text

end Field

/-- The value of a field. -/
def value (s : Settings) : (f : Field) → f.Value
  | .sourceDirectory => s.sourceDirectory
  | .configDirectory => s.configDirectory
  | .configFragment => s.configFragment
  | .stageFragment => s.stageFragment
  | .routingFragment => s.routingFragment
  | .configModule => s.configModule
  | .manifestModule => s.manifestModule
  | .sourceExtension => s.sourceExtension
  | .importRoot => s.importRoot

/-- The value of a field, as a message would show it. -/
def get (s : Settings) : Field → String
  | .sourceDirectory => s.sourceDirectory.display
  | .configDirectory => s.configDirectory.display
  | .configFragment => s.configFragment
  | .stageFragment => s.stageFragment
  | .routingFragment => s.routingFragment
  | .configModule => s.configModule
  | .manifestModule => s.manifestModule
  | .sourceExtension => s.sourceExtension
  | .importRoot => s.importRoot

/-- The settings with another value of a field. -/
def set (s : Settings) : (f : Field) → f.Value → Settings
  | .sourceDirectory, value => { s with sourceDirectory := value }
  | .configDirectory, value => { s with configDirectory := value }
  | .configFragment, value => { s with configFragment := value }
  | .stageFragment, value => { s with stageFragment := value }
  | .routingFragment, value => { s with routingFragment := value }
  | .configModule, value => { s with configModule := value }
  | .manifestModule, value => { s with manifestModule := value }
  | .sourceExtension, value => { s with sourceExtension := value }
  | .importRoot, value => { s with importRoot := value }

/-! ## Paths -/

/-- The source root of a project. -/
def sourceRoot (s : Settings) (project : Path) : Path := project.join s.sourceDirectory

/-- The directory of the fragments and of the configuration module. -/
def configDirectoryIn (s : Settings) (sourceRoot : Path) : Path :=
  sourceRoot.join s.configDirectory

def configModuleIn (s : Settings) (sourceRoot : Path) : Path :=
  (s.configDirectoryIn sourceRoot).join (.ofString s.configModule)

def manifestModuleIn (s : Settings) (sourceRoot : Path) : Path :=
  sourceRoot.join (.ofString s.manifestModule)

end Settings

/-- Where the three fragments of a configuration lie. -/
structure FragmentPaths where
  config : Path
  stage : Path
  routing : Path
deriving DecidableEq

/-- The fragments below a source root. -/
def Settings.fragmentsIn (s : Settings) (sourceRoot : Path) : FragmentPaths :=
  let directory := s.configDirectoryIn sourceRoot
  { config := directory.join (.ofString s.configFragment)
    stage := directory.join (.ofString s.stageFragment)
    routing := directory.join (.ofString s.routingFragment) }

end Prebuild
