import Prebuild.Generator

/-!
# The commands and what they take

The program is a verb with further verbs below it. A verb takes flags, some of them with a
value, and an argument if there is one. The description is data: arguments are read by it, and
the completion scripts are written from it.
-/

namespace Prebuild.Command

/-- What a value has to be. -/
inductive ValueSort where
  /-- a path, which may not be empty -/
  | path
  | text
  /-- a number from 1 up to 2^32 - 1 -/
  | count
deriving DecidableEq

/-- The value of a flag. -/
structure Parameter where
  name : String
  sort : ValueSort

structure Flag where
  long : String
  short? : Option Char
  help : String
  /-- absent for a flag that is given or not -/
  parameter? : Option Parameter
  /-- the environment variable that counts where the flag is not given -/
  fallback? : Option String

/-- A value that an argument may have. -/
structure Choice where
  name : String
  help? : Option String

/-- What a verb needs to know besides its flags. -/
structure Argument where
  name : String
  help : String
  choices : List Choice

structure Verb where
  name : String
  help : String
  flags : List Flag
  argument? : Option Argument
  verbs : List Verb

/-- The shells that completion scripts are written for. -/
inductive Shell where
  | bash
  | elvish
  | fish
  | powershell
  | zsh
deriving DecidableEq

namespace Shell

def name : Shell → String
  | .bash => "bash"
  | .elvish => "elvish"
  | .fish => "fish"
  | .powershell => "powershell"
  | .zsh => "zsh"

def all : List Shell := [.bash, .elvish, .fish, .powershell, .zsh]

end Shell

/-- What a command line calls a product. -/
def productName : Product → String
  | .config => "config"
  | .manifest => "manifest"

/-! ## Flags -/

def logLevelFlag : Flag where
  long := "log-level"
  short? := none
  help := "Set log level (error, warn, info, debug, trace); RUST_LOG takes precedence"
  parameter? := some ⟨"LEVEL", .text⟩
  fallback? := none

def settingsFlag : Flag where
  long := "settings"
  short? := none
  help := "Settings file (defaults to autoloader.yaml in the project root)"
  parameter? := some ⟨"PATH", .path⟩
  fallback? := some "AUTOLOADER_SETTINGS"

def rootFlag : Flag where
  long := "root"
  short? := some 'r'
  help := "Project root containing the source tree"
  parameter? := some ⟨"PATH", .path⟩
  fallback? := none

def environmentFlag : Flag where
  long := "env"
  short? := some 'e'
  help := "Deployment environment selecting the config block"
  parameter? := some ⟨"NAME", .text⟩
  fallback? := some "AUTOLOADER_ENV"

def dryRunFlag : Flag where
  long := "dry-run"
  short? := some 'n'
  help := "Show what would be written without making changes"
  parameter? := none
  fallback? := none

def passesFlag : Flag where
  long := "passes"
  short? := none
  help := "Number of pre-build events to run on the same generator"
  parameter? := some ⟨"N", .count⟩
  fallback? := none

def quietFlag : Flag where
  long := "quiet"
  short? := some 'q'
  help := "Suppress all output except errors"
  parameter? := none
  fallback? := none

def outputFlag : Flag where
  long := "output"
  short? := some 'o'
  help := "Write the script to this file instead of stdout"
  parameter? := some ⟨"PATH", .path⟩
  fallback? := none

/-- The flag for help; there may be more help under its long name. -/
def helpFlag (more : Bool) : Flag where
  long := "help"
  short? := some 'h'
  help := if more then "Print help (see more with '--help')" else "Print help"
  parameter? := none
  fallback? := none

def versionFlag : Flag where
  long := "version"
  short? := some 'V'
  help := "Print version"
  parameter? := none
  fallback? := none

/-- The flags that may stand in front of a verb as well as behind it. -/
def sharedFlags : List Flag := [logLevelFlag, settingsFlag]

/-! ## Verbs -/

def generateVerb : Verb where
  name := "generate"
  help := "Generate the config and manifest modules for a project"
  flags := [rootFlag, environmentFlag, dryRunFlag, passesFlag, quietFlag] ++ sharedFlags ++
    [helpFlag false]
  argument? := none
  verbs := []

def showVerb : Verb where
  name := "show"
  help := "Print a generated module without writing it"
  flags := [rootFlag, environmentFlag] ++ sharedFlags ++ [helpFlag true]
  argument? := some {
    name := "module"
    help := "Module to print"
    choices := [
      ⟨productName .config, some "The merged configuration module"⟩,
      ⟨productName .manifest, some "The package manifest module"⟩] }
  verbs := []

def completionsVerb : Verb where
  name := "completions"
  help := "Generate shell completion scripts"
  flags := outputFlag :: sharedFlags ++ [helpFlag false]
  argument? := some {
    name := "shell"
    help := "Shell to generate the script for"
    choices := Shell.all.map fun s => ⟨s.name, none⟩ }
  verbs := []

/-- A verb as it may be named behind `help`. -/
def Verb.named (v : Verb) : Verb := ⟨v.name, v.help, [], none, []⟩

/-- The verb for help about some verbs and about itself. -/
def helpVerb (about : List Verb) : Verb :=
  let bare : Verb :=
    ⟨"help", "Print this message or the help of the given subcommand(s)", [], none, []⟩
  { bare with verbs := about.map Verb.named ++ [bare] }

def mainVerbs : List Verb := [generateVerb, showVerb, completionsVerb]

/-- The program itself. -/
def program : Verb where
  name := "autoloader"
  help := "Generate runtime config and package manifest before a build"
  flags := sharedFlags ++ [helpFlag false, versionFlag]
  argument? := none
  verbs := mainVerbs ++ [helpVerb mainVerbs]

def version : String := "0.1.0"

end Prebuild.Command
