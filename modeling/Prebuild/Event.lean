import Prebuild.Failure

/-!
# What a run reports on its way

Events are reported in the order in which they occur; each has a level and a message. A
computation that reports events and may fail is `Reported`. It has its events also when it
fails, and nothing that would come behind a failure.
-/

namespace Prebuild

inductive Level where
  | error
  | warn
  | info
  | debug
  | trace
deriving DecidableEq

namespace Level

def name : Level → String
  | .error => "error"
  | .warn => "warn"
  | .info => "info"
  | .debug => "debug"
  | .trace => "trace"

/-- How much a level lets through; a level lets those through that are not finer. -/
def rank : Level → Nat
  | .error => 1
  | .warn => 2
  | .info => 3
  | .debug => 4
  | .trace => 5

end Level

inductive Event where
  | noFragment (file : Path)
  | discovered (count : Nat) (extension : String) (root : Path)
  | skippedLine (line : String)
  | notRegistered (className : String) (file : Path)
  | alreadyImported (name : String) (file : Path)
  | registeredTwice (key : String) (file : Path)
  | built (root : Path) (count : Nat)
  | upToDate (file : Path)
  | wouldWrite (file : Path) (bytes : Nat)
  | wrote (file : Path) (bytes : Nat)
  | wroteCompletions (shell : String) (file : Path)
deriving DecidableEq

namespace Event

def level : Event → Level
  | .skippedLine _ | .alreadyImported _ _ | .registeredTwice _ _ => .warn
  | .upToDate _ | .wouldWrite _ _ | .wrote _ _ | .wroteCompletions _ _ => .info
  | .noFragment _ | .discovered _ _ _ | .notRegistered _ _ | .built _ _ => .debug

def message : Event → String
  | .noFragment file => "No fragment at " ++ file.display
  | .discovered n extension root =>
    "Discovered " ++ toString n ++ " ." ++ extension ++ " files under " ++ root.display
  | .skippedLine line =>
    "Skipping `" ++ line ++ "`: the class name must be a separate identifier"
  | .notRegistered className file =>
    className ++ " in " ++ file.display ++ " is outside view/model, not registered"
  | .alreadyImported name file =>
    "`" ++ name ++ "` from " ++ file.display ++
      " is already imported; the manifest module will not load"
  | .registeredTwice key file =>
    "Key \"" ++ key ++ "\" from " ++ file.display ++
      " is registered twice; lookups resolve to the first"
  | .built root n => "Manifest for " ++ root.display ++ " has " ++ toString n ++ " entries"
  | .upToDate file => file.display ++ " is up to date, skipping write"
  | .wouldWrite file bytes => "Would write " ++ file.display ++ " (" ++ toString bytes ++ " bytes)"
  | .wrote file bytes => "Wrote " ++ file.display ++ " (" ++ toString bytes ++ " bytes)"
  | .wroteCompletions shell file => "Wrote " ++ shell ++ " completions to " ++ file.display

end Event

/-- A computation with the events it reported and how it ended. -/
structure Reported (α : Type) where
  events : List Event
  result : Except Failure α

namespace Reported

/-- Reports one event. -/
def report (e : Event) : Reported Unit := ⟨[e], .ok ()⟩

/-- Ends with a result that is already known. -/
def ofResult {α : Type} (r : Except Failure α) : Reported α := ⟨[], r⟩

def fail {α : Type} (f : Failure) : Reported α := ⟨[], .error f⟩

instance : Monad Reported where
  pure a := ⟨[], .ok a⟩
  bind x f :=
    match x.result with
    | .error e => ⟨x.events, .error e⟩
    | .ok a => ⟨x.events ++ (f a).events, (f a).result⟩

end Reported

end Prebuild
