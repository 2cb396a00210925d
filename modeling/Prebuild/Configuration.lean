import Prebuild.Fragment
import Prebuild.Json.Printer

/-!
# The configuration

The configuration is an object merged from up to three fragments. It starts out with an empty
`stage` and an empty `routing`. The first fragment holds a block for each environment and one,
`all`, for every environment; the block of the environment at hand is merged in first and
`all` over it. The other two fragments then go into `stage` and into `routing`. A merge takes
each member as a whole: objects under one key are not combined.
-/

namespace Prebuild

namespace Configuration

/-- The key of the block for every environment. -/
def allKey : String := "all"

def stageKey : String := "stage"

def routingKey : String := "routing"

/-- What the configuration is before anything is merged into it. -/
def blank : Json.Members := Assoc.ofList [(stageKey, .object []), (routingKey, .object [])]

/-- Merges the blocks of the first fragment into the configuration. -/
def mergeBlocks (environment : String) (config : Option Fragment) (merged : Json.Members) :
    Except Failure Json.Members :=
  match config with
  | none => .ok merged
  | some f => do
    let own ← f.block? environment
    let common ← f.block? allKey
    return (merged.merge (own.getD [])).merge (common.getD [])

/-- Merges a fragment into the object under a key. A value that counts as absent is replaced
by an empty object first; any other that is no object is refused in the name of the file it
came from. -/
def mergeInto (key : String) (origin : Path) (overrides : Option Fragment)
    (merged : Json.Members) : Except Failure Json.Members := do
  let current ← ((merged.find? key).getD (.object [])).membersOf origin key
  let own ←
    match overrides with
    | none => .ok none
    | some f => f.members?
  return Assoc.insert key (.object ((current.getD []).merge (own.getD []))) merged

/-- The configuration for an environment. -/
def merge (environment : String) (config stage routing : Option Fragment) :
    Except Failure Json.Members := do
  let origin := (config.map (·.file)).getD .empty
  let merged ← mergeBlocks environment config blank
  let merged ← mergeInto stageKey origin stage merged
  mergeInto routingKey origin routing merged

/-- The configuration for an environment from the fragments in three files. -/
def assemble (fs : FileSystem) (paths : FragmentPaths) (environment : String) :
    Reported Json.Members := do
  let config ← Fragment.load fs paths.config
  let stage ← Fragment.load fs paths.stage
  let routing ← Fragment.load fs paths.routing
  Reported.ofResult (merge environment config stage routing)

/-- The module that carries a configuration. -/
def moduleText (merged : Json.Members) : String :=
  "const config = " ++ merged.pretty ++ ";\nexport \x7b config \x7d;"

end Configuration

end Prebuild
