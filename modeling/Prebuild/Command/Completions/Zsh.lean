import Prebuild.Command.Completions.Basic

/-!
# Completion for zsh

The script describes the flags of each verb to the shell and goes from a verb to the ones
below it by states. Behind that stands a function for each verb that describes the verbs
below it.
-/

namespace Prebuild.Command.Zsh

/-- The characters with a meaning of their own in a description. -/
def escape (c : Char) : String :=
  if "\\[]:$`".toList.contains c then "\\" ++ String.singleton c else String.singleton c

/-- A description, for use inside single quotes. -/
def describe (help : String) : String :=
  String.join (help.toList.map fun c => if c = '\'' then "'\\''" else escape c)

/-- What the value of a flag is, and how it is completed. -/
def parameterNote (p : Parameter) : String :=
  ":" ++ p.name ++ ":" ++ if p.sort = .path then "_files" else "_default"

/-- The lines for a flag. The mark behind a form says where its value may stand. -/
def flagLines (f : Flag) : List String :=
  let note := "[" ++ describe f.help ++ "]" ++ ((f.parameter?.map parameterNote).getD "")
  let line (form mark : String) : String :=
    "'" ++ form ++ (if f.takesValue then mark else "") ++ note ++ "' \\"
  f.shortForm?.toList.map (line · "+") ++ [line f.longForm "="]

/-- The values an argument may have, each with its help if there is any. -/
def choices (cs : List Choice) : String :=
  if cs.any (·.help?.isSome) then
    "((" ++ "\n".intercalate (cs.map fun c =>
      c.name ++ "\\:\"" ++ describe (c.help?.getD "") ++ "\"") ++ "))"
  else "(" ++ " ".intercalate (cs.map (·.name)) ++ ")"

def argumentLine (a : Argument) : String :=
  "':" ++ a.name ++ " -- " ++ describe a.help ++ ":" ++ choices a.choices ++ "' \\"

/-- The description of a verb to the shell. -/
def arguments (p : VerbAt) : List String :=
  ["_arguments \"$\x7b_arguments_options[@]\x7d\" : \\"] ++
  (arranged p.verb.flags).flatMap flagLines ++
  p.verb.argument?.toList.map argumentLine ++
  (if p.verb.verbs.isEmpty then []
   else ["\":: :_" ++ p.symbol ++ "_commands\" \\", "\"*::: :->" ++ p.verb.name ++ "\" \\"]) ++
  ["&& ret=0"]

/-- The state for the verbs below a verb, given what is done for each. -/
def state (p : VerbAt) (branches : List String) : List String :=
  [
    "    case $state in",
    "    (" ++ p.verb.name ++ ")",
    "        words=($line[1] \"$\x7bwords[@]\x7d\")",
    "        (( CURRENT += 1 ))",
    "        curcontext=\"$\x7bcurcontext%:*:*\x7d:" ++ p.joined "-" ++ "-command-$line[1]:\"",
    "        case $line[1] in"] ++
  branches ++ [
    "        esac",
    "    ;;",
    "esac"]

/-- The first line of a list, further in. -/
def indentFirst : List String → List String
  | [] => []
  | l :: ls => ("            " ++ l) :: ls

mutual

/-- What is done behind a verb: its description, and the state for the verbs below it. -/
def body (path : List String) : Verb → List String
  | ⟨name, help, flags, argument?, verbs⟩ =>
    let p : VerbAt := ⟨path, ⟨name, help, flags, argument?, verbs⟩⟩
    arguments p ++
      if verbs.isEmpty then [] else "" :: state p (indentFirst (bodies path verbs))

/-- What is done behind each of several verbs. -/
def bodies (path : List String) : List Verb → List String
  | [] => []
  | v :: vs =>
    ["(" ++ v.name ++ ")"] ++ body (path ++ [v.name]) v ++ [";;"] ++ bodies path vs

end

/-- The function that describes the verbs below a verb. -/
def describer (p : VerbAt) : List String :=
  let name := "_" ++ p.symbol ++ "_commands"
  let listed :=
    if p.verb.verbs.isEmpty then ["    local commands; commands=()"]
    else
      ["    local commands; commands=("] ++
      (p.verb.verbs.map fun v => "'" ++ v.name ++ ":" ++ describe v.help ++ "' \\") ++
      ["    )"]
  ["(( $+functions[" ++ name ++ "] )) ||", name ++ "() \x7b"] ++ listed ++
  [
    "    _describe -t commands '" ++ p.joined " " ++ " commands' commands \"$@\"",
    "\x7d"]

def script : String :=
  let name := program.name
  let top : VerbAt := ⟨[], program⟩
  unlines <| [
    "#compdef " ++ name,
    "",
    "autoload -U is-at-least",
    "",
    "_" ++ name ++ "() \x7b",
    "    typeset -A opt_args",
    "    typeset -a _arguments_options",
    "    local ret=1",
    "",
    "    if is-at-least 5.2; then",
    "        _arguments_options=(-s -S -C)",
    "    else",
    "        _arguments_options=(-s -C)",
    "    fi",
    "",
    "    local context curcontext=\"$curcontext\" state line"] ++
  ((arguments top).head?.map ("    " ++ ·)).toList ++ (arguments top).tail ++
  state top (indentFirst (bodies [] program.verbs)) ++ [
    "\x7d",
    ""] ++
  VerbAt.sorted.flatMap describer ++ [
    "",
    "if [ \"$funcstack[1]\" = \"_" ++ name ++ "\" ]; then",
    "    _" ++ name ++ " \"$@\"",
    "else",
    "    compdef _" ++ name ++ " " ++ name,
    "fi"]

end Prebuild.Command.Zsh
