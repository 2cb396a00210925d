import Prebuild.Command.Grammar

/-!
# Reading a command line

The arguments are bytes. Those in front of the verb are read by the flags of the program,
those behind it by the flags of the verb. A flag is `--long`, or `-s` by its short name, where
short names may be run together; a value stands behind `=`, directly behind a short name, or
in the next argument unless that looks like a flag. Behind `--` there are no flags. A flag may
not be given twice at one level; a shared flag behind the verb counts more than the same flag
in front of it, and both count more than an environment variable.
-/

namespace Prebuild.Command

/-- An argument of the command line, or a value in it. -/
abbrev Bytes := List UInt8

/-- Names of environment variables, with their values. -/
abbrev Variables := List (String × Bytes)

/-! ## Values -/

/-- The decimal number that a text spells, with a plus sign in front if there is one. -/
def number? (cs : List Char) : Option Nat :=
  let digits :=
    match cs with
    | '+' :: cs => cs
    | cs => cs
  if digits.isEmpty || !digits.all (·.isDigit) then none
  else some (digits.foldl (fun n c => n * 10 + (c.toNat - '0'.toNat)) 0)

/-- The number from 1 up to 2^32 - 1 that a text spells. -/
def count? (text : String) : Option Nat :=
  (number? text.toList).filter fun n => 1 ≤ n && n < 0x100000000

/-- Whether a value is of a sort. -/
def ValueSort.accepts (value : Bytes) : ValueSort → Bool
  | .path => !value.isEmpty
  | .text => (Text.decode? value).isSome
  | .count => ((Text.decode? value).bind count?).isSome

def Flag.accepts (f : Flag) (value : Bytes) : Bool :=
  match f.parameter? with
  | none => false
  | some p => p.sort.accepts value

/-! ## One level -/

/-- The flags that were given at one level, by their long names. One without a parameter has
the empty value. -/
abbrev Given := List (String × Bytes)

namespace Given

def find? (g : Given) (f : Flag) : Option Bytes := g.lookup f.long

def has (g : Given) (f : Flag) : Bool := (g.find? f).isSome

/-- Adds a flag, unless it was given before or does not take the value. -/
def addValue (g : Given) (f : Flag) (value : Bytes) : Option Given :=
  if g.has f || !f.accepts value then none else some ((f.long, value) :: g)

/-- Adds a flag that takes no value, unless it was given before. -/
def addSwitch (g : Given) (f : Flag) : Option Given :=
  if g.has f then none else some ((f.long, []) :: g)

end Given

/-- How an argument begins. -/
inductive ArgumentShape where
  /-- `--` alone -/
  | separator
  | long (name : Bytes) (value? : Option Bytes)
  | shorts (names : Bytes)
  | word

def hyphen : UInt8 := 0x2D

def equalsSign : UInt8 := 0x3D

/-- A long flag, cut at its first equals sign. -/
def cutLong (bytes : Bytes) : Bytes × Option Bytes :=
  match bytes.dropWhile (· ≠ equalsSign) with
  | [] => (bytes, none)
  | _ :: value => (bytes.takeWhile (· ≠ equalsSign), some value)

def shape (arg : Bytes) : ArgumentShape :=
  match arg with
  | [] => .word
  | a :: rest =>
    if a ≠ hyphen then .word
    else
      match rest with
      | [] => .word
      | b :: rest' =>
        if b ≠ hyphen then .shorts rest
        else if rest'.isEmpty then .separator
        else
          let (name, value?) := cutLong rest'
          .long name value?

/-- Whether an argument can be the value of the flag in front of it. -/
def isWord (arg : Bytes) : Bool :=
  match shape arg with
  | .word => true
  | _ => false

/-- What reading one level ends with. -/
inductive LevelEnd where
  | help
  | version
  /-- all that was given, and the words -/
  | complete (given : Given) (words : List Bytes)
  /-- a verb, and the arguments behind it -/
  | verb (given : Given) (verb : Verb) (rest : List Bytes)

/-- Where reading short flags that are run together leads to. -/
inductive ShortsEnd where
  | help
  | version
  | done (given : Given)
  /-- the last of them takes its value from the next argument -/
  | wantsValue (given : Given) (flag : Flag)

/-- Reads short flags that are run together. -/
def readShorts (flags : List Flag) (given : Given) : Bytes → Option ShortsEnd
  | [] => some (.done given)
  | b :: rest =>
    match flags.find? fun f => f.short?.any fun c => c.toNat = b.toNat with
    | none => none
    | some f =>
      if f.long = "help" then some .help
      else if f.long = "version" then some .version
      else if f.parameter?.isNone then (given.addSwitch f).bind fun g => readShorts flags g rest
      else
        match rest with
        | [] => some (.wantsValue given f)
        | c :: value =>
          (given.addValue f (if c = equalsSign then value else c :: value)).map .done

/-- Reads the arguments of one level. `wanting` is a flag that takes its value from the next
argument. Nothing is returned for what a verb does not take. -/
def readLevel (verb : Verb) (given : Given) (words : List Bytes) (wanting : Option Flag) :
    List Bytes → Option LevelEnd
  | [] => if wanting.isSome then none else some (.complete given words.reverse)
  | arg :: rest =>
    match wanting with
    | some f =>
      if isWord arg then
        (given.addValue f arg).bind fun g => readLevel verb g words none rest
      else none
    | none =>
      match shape arg with
      | .separator => some (.complete given (words.reverse ++ rest))
      | .word =>
        match verb.verbs.find? fun v => Text.encode v.name = arg with
        | some v => some (.verb given v rest)
        | none =>
          if verb.argument?.isSome then readLevel verb given (arg :: words) none rest else none
      | .long name value? =>
        match verb.flags.find? fun f => Text.encode f.long = name with
        | none => none
        | some f =>
          match f.parameter?, value? with
          | none, some _ => none
          | none, none =>
            if f.long = "help" then some .help
            else if f.long = "version" then some .version
            else (given.addSwitch f).bind fun g => readLevel verb g words none rest
          | some _, some value =>
            (given.addValue f value).bind fun g => readLevel verb g words none rest
          | some _, none => readLevel verb given words (some f) rest
      | .shorts names =>
        match readShorts verb.flags given names with
        | none => none
        | some .help => some .help
        | some .version => some .version
        | some (.done g) => readLevel verb g words none rest
        | some (.wantsValue g f) => readLevel verb g words (some f) rest

/-! ## The whole line -/

inductive Action where
  | generate (root : Path) (environment : String) (dryRun : Bool) (passes : Nat) (quiet : Bool)
  | preview (product : Product) (root : Path) (environment : String)
  | completions (shell : Shell) (output? : Option Path)

structure Invocation where
  logLevel : String
  settings? : Option Path
  action : Action

/-- The project that is worked on, if there is one. -/
def Action.root? : Action → Option Path
  | .generate root .. | .preview _ root _ => some root
  | .completions _ _ => none

/-- The files that are named besides those of a project. -/
def Invocation.namedFiles (i : Invocation) : List Path :=
  let output? :=
    match i.action with
    | .completions _ output? => output?
    | _ => none
  i.settings?.toList ++ output?.toList

inductive CommandLine where
  | help (about : Verb)
  | version
  | run (invocation : Invocation)

/-- The value of a flag from the levels in which it may be given, the one that counts most
first, or from the environment. A variable with a value that the flag does not take is refused
even if the flag is given at one level only, as each level looks for the flag on its own. -/
def valueOf? (vars : Variables) (levels : List Given) (f : Flag) :
    Option (Option Bytes) :=
  match f.fallback?.bind fun name => vars.lookup name with
  | none => some (levels.findSome? (·.find? f))
  | some value =>
    if f.accepts value then some (some ((levels.findSome? (·.find? f)).getD value))
    else if levels.all (·.has f) then some (levels.findSome? (·.find? f))
    else none

/-- The text of a value. -/
def textOr (default : String) (value? : Option Bytes) : String :=
  (value?.bind Text.decode?).getD default

/-- The path of a value. -/
def pathOr (default : Path) (value? : Option Bytes) : Path := (value?.map Path.mk).getD default

/-- The choice that the only word of a verb makes. -/
def chosen? {α : Type} (name : α → String) (choices : List α) (words : List Bytes) : Option α :=
  match words with
  | [word] => choices.find? fun a => Text.encode (name a) = word
  | _ => none

/-- What a verb does, given the flags and words behind it. -/
def action? (vars : Variables) (verb : Verb) (given : Given) (words : List Bytes) :
    Option Action := do
  if verb.name = completionsVerb.name then
    let shell ← chosen? Shell.name Shell.all words
    return .completions shell ((given.find? outputFlag).map Path.mk)
  else
    let root := pathOr .here (given.find? rootFlag)
    let environment :=
      textOr Generator.defaultEnvironment (← valueOf? vars [given] environmentFlag)
    if verb.name = generateVerb.name then
      if !words.isEmpty then none
      else
        let passes := ((given.find? passesFlag).bind fun v => (Text.decode? v).bind count?).getD 1
        return .generate root environment (given.has dryRunFlag) passes (given.has quietFlag)
    else
      return .preview (← chosen? productName [.config, .manifest] words) root environment

/-- The log level where none is given. -/
def defaultLogLevel : String := "warn"

/-- The environment variable that counts more than the log level of the command line. -/
def logVariable : String := "RUST_LOG"

/-- The environment variables that matter. -/
def variableNames : List String :=
  logVariable :: ((mainVerbs.flatMap (·.flags)).filterMap (·.fallback?)).eraseDups

/-- The verb that names lead to, each below the one before. -/
def Verb.below? (v : Verb) : List Bytes → Option Verb
  | [] => some v
  | name :: names =>
    match v.verbs.find? fun w => Text.encode w.name = name with
    | none => none
    | some w => w.below? names

/-- Reads the arguments behind the name of the program. -/
def readLine (vars : Variables) (args : List Bytes) : Option CommandLine := do
  match ← readLevel program [] [] none args with
  | .help => return .help program
  | .version => return .version
  | .complete _ _ => none
  | .verb before verb rest =>
    if !verb.verbs.isEmpty then return .help (← program.below? rest)
    else
      match ← readLevel verb [] [] none rest with
      | .help => return .help verb
      | .version | .verb _ _ _ => none
      | .complete given words =>
        let action ← action? vars verb given words
        let levels := [given, before]
        let settings ← valueOf? vars levels settingsFlag
        let logLevel ← valueOf? vars levels logLevelFlag
        return .run ⟨textOr defaultLogLevel logLevel, settings.map Path.mk, action⟩

end Prebuild.Command
