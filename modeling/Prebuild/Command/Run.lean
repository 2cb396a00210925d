import Prebuild.Command.Arguments
import Prebuild.Command.Completions

/-!
# Running a command

A run starts from the files as they are and ends with files, the text it printed, the events
it reported and, if it failed, what it failed with. What was printed before a failure stays.
-/

namespace Prebuild.Command

/-- What ends a command early. -/
inductive Fault where
  | noProject (root : Path)
  | settings (root : Path) (failure : Failure)
  | failure (failure : Failure)
deriving DecidableEq

/-! ## Reports -/

/-- What is behind a failure, from the nearest to the deepest. -/
def reasons : Failure → List String
  | .walk fault => [fault.message, fault.refusal.message]
  | .notYaml => [Failure.notYamlReason]
  | _ => []

namespace Fault

/-- What failed. -/
def headline : Fault → String
  | .noProject root => "Project root not found: " ++ root.display
  | .settings root _ => "Failed to load settings for " ++ root.display
  | .failure f => f.message

/-- Why it failed, from the nearest cause to the deepest. -/
def causes : Fault → List String
  | .noProject _ => []
  | .settings _ f => f.message :: reasons f
  | .failure f => reasons f

/-- A text of several lines with all but the first further in. -/
def hang (indent text : String) : String := ("\n" ++ indent).intercalate (text.splitOn "\n")

/-- Causes, each with its number. -/
def numbered (number : Nat) : List String → String
  | [] => ""
  | c :: cs =>
    let label := toString number
    "\n" ++ String.ofList (List.replicate (5 - label.length) ' ') ++ label ++ ": " ++
      hang "       " c ++ numbered (number + 1) cs

/-- The report of a failure. -/
def report (f : Fault) : String :=
  let why :=
    match f.causes with
    | [] => ""
    | [c] => "\n\nCaused by:\n    " ++ hang "    " c
    | cs => "\n\nCaused by:" ++ numbered 0 cs
  "Error: " ++ f.headline ++ why ++ "\n"

end Fault

/-! ## Runs -/

structure Run where
  files : FileSystem
  output : String
  events : List Event
  fault? : Option Fault

namespace Run

/-- A run that failed before it did anything. -/
def failed (fs : FileSystem) (fault : Fault) : Run := ⟨fs, "", [], some fault⟩

/-- A run behind something that was printed and reported. -/
def behind (output : String) (events : List Event) (r : Run) : Run :=
  { r with output := output ++ r.output, events := events ++ r.events }

end Run

/-- The generator for a project. -/
def generatorFor (fs : FileSystem) (root : Path) (settings? : Option Path) (environment : String)
    (dryRun : Bool) : Except Fault Generator :=
  if !fs.reachesDirectory root then .error (.noProject root)
  else
    match Settings.load fs root settings? with
    | .error f => .error (.settings root f)
    | .ok settings => .ok (.fresh root environment settings dryRun)

/-- The line for how a pass over one product ended. -/
def outcomeLine (dryRun : Bool) : Outcome → String
  | .written file bytes =>
    (if dryRun then "would write " else "wrote ") ++ file.display ++ " (" ++ toString bytes ++
      " bytes)"
  | .unchanged file => "unchanged " ++ file.display

/-- The lines for a pass. -/
def passText (dryRun : Bool) (number : Nat) (r : PassReport) : String :=
  unlines [
    "Pass " ++ toString number ++ ":",
    "  " ++ outcomeLine dryRun r.config,
    "  " ++ outcomeLine dryRun r.manifest]

/-- Runs passes up to the first that fails. -/
def runPasses (schedules : Nat → Schedule) (quiet : Bool) (g : Generator) (fs : FileSystem)
    (number : Nat) : Nat → Run
  | 0 => ⟨fs, "", [], none⟩
  | passes + 1 =>
    let turn := g.beforeCompile fs (schedules number)
    match turn.reported.result with
    | .error f => ⟨turn.files, "", turn.reported.events, some (.failure f)⟩
    | .ok r =>
      (runPasses schedules quiet turn.generator turn.files (number + 1) passes).behind
        (if quiet then "" else passText g.dryRun number r) turn.reported.events

/-- What is printed in front of the passes. -/
def header (g : Generator) : String :=
  (if g.dryRun then "DRY RUN MODE - No changes will be made\n" else "") ++
    "Generating for environment '" ++ g.environment ++ "' in " ++ g.sourceRoot.display ++ "\n"

/-- Generates the modules of a project so many times. -/
def generate (fs : FileSystem) (settings? : Option Path) (root : Path) (environment : String)
    (dryRun : Bool) (passes : Nat) (quiet : Bool) (schedules : Nat → Schedule := fun _ => {}) :
    Run :=
  match generatorFor fs root settings? environment dryRun with
  | .error f => .failed fs f
  | .ok g => (runPasses schedules quiet g fs 1 passes).behind (if quiet then "" else header g) []

/-- Prints a module without writing it. -/
def preview (fs : FileSystem) (settings? : Option Path) (product : Product) (root : Path)
    (environment : String) : Run :=
  match generatorFor fs root settings? environment false with
  | .error f => .failed fs f
  | .ok g =>
    let rendered := g.render fs product
    match rendered.result with
    | .error f => ⟨fs, "", rendered.events, some (.failure f)⟩
    | .ok text => ⟨fs, text ++ "\n", rendered.events, none⟩

/-- Prints a completion script, or writes it to a file. -/
def complete (fs : FileSystem) (shell : Shell) (output? : Option Path)
    (stop? : Option Stop := none) : Run :=
  match output? with
  | none => ⟨fs, shell.script, [], none⟩
  | some file =>
    match fs.replaceFile file shell.script stop? with
    | (fs', .error e) => .failed fs' (.failure (.write e))
    | (fs', .ok ()) => ⟨fs', "", [.wroteCompletions shell.name file], none⟩

/-- Does what a command line asks for. -/
def Invocation.run (i : Invocation) (fs : FileSystem) : Run :=
  match i.action with
  | .generate root environment dryRun passes quiet =>
    generate fs i.settings? root environment dryRun passes quiet
  | .preview product root environment => preview fs i.settings? product root environment
  | .completions shell output? => complete fs shell output?

/-! ## Events that are shown -/

/-- The finest level that a name lets through. No name means errors alone; one that is no
level lets nothing through. -/
def threshold (name : String) : Option Level :=
  if name.isEmpty then some .error
  else [Level.error, .warn, .info, .debug, .trace].find? fun l => l.name = name.toLower

/-- The events that a level lets through. -/
def shown (finest : Option Level) (events : List Event) : List Event :=
  match finest with
  | none => []
  | some l => events.filter fun e => e.level.rank ≤ l.rank

/-- The level that applies: that of the environment, else that of the command line. -/
def Invocation.threshold (i : Invocation) (vars : Variables) : Option Level :=
  Command.threshold (((vars.lookup logVariable).bind Text.decode?).getD i.logLevel)

/-! ## The program -/

/-- What is left of a program that has ended. -/
structure Ending where
  files : FileSystem
  status : Nat
  output : String
  events : List Event
  /-- what is printed about a failure -/
  errors : String

/-- What is printed for a command line that is none. -/
def usage : String :=
  "Usage: " ++ program.name ++ " [" ++ "|".intercalate (program.verbs.map (·.name)) ++ "]\n"

/-- The help about a verb. -/
def helpText (v : Verb) : String :=
  unlines <|
    [v.help, ""] ++ (v.verbs.map fun w => "  " ++ w.name ++ "  " ++ w.help) ++
    (v.argument?.toList.map fun a => "  <" ++ a.name ++ ">  " ++ a.help) ++
    (v.flags.map fun f => "  " ++ ", ".intercalate (f.shortForm?.toList ++ [f.longForm]) ++ "  " ++
      f.help)

/-- Runs the program. -/
def execute (fs : FileSystem) (vars : Variables) (args : List Bytes) : Ending :=
  match readLine vars args with
  | none => ⟨fs, 2, "", [], usage⟩
  | some (.help v) => ⟨fs, 0, helpText v, [], ""⟩
  | some .version => ⟨fs, 0, program.name ++ " " ++ version ++ "\n", [], ""⟩
  | some (.run i) =>
    let r := i.run fs
    let events := shown (i.threshold vars) r.events
    match r.fault? with
    | none => ⟨r.files, 0, r.output, events, ""⟩
    | some f => ⟨r.files, 1, r.output, events, f.report⟩

end Prebuild.Command
