import Prebuild.Command.Completions.Basic

/-!
# Completion for fish

The script holds one rule for each thing that may be completed, with the condition under which
it may. The verbs below another verb have no rules of their own.
-/

namespace Prebuild.Command.Fish

/-- The options as the argument parser of the shell takes them. -/
def specification (f : Flag) : String :=
  ((f.short?.map fun c => String.singleton c ++ "/").getD "") ++ f.long ++
    if f.takesValue then "=" else ""

def rule (condition content help : String) : String :=
  "complete -c " ++ program.name ++ " -n \"" ++ condition ++ "\"" ++ content ++ " -d " ++
    quoted "\\'" help

def flagRule (condition : String) (f : Flag) : String :=
  let forms := ((f.short?.map fun c => " -s " ++ String.singleton c).getD "") ++ " -l " ++ f.long
  rule condition forms f.help ++
    (if f.takesValue then " -r" else "") ++ if f.takesPath then " -F" else ""

def verbRule (condition : String) (v : Verb) : String :=
  rule condition (" -f -a \"" ++ v.name ++ "\"") v.help

/-- The rules for what follows a verb, given when it is the verb so far and when none of the
verbs below it follows yet. -/
def rules (condition first : String) (v : Verb) : List String :=
  (arranged v.flags).map (flagRule condition) ++ v.verbs.map (verbRule first)

/-- The rules for what follows the program. -/
def topRules : List String :=
  let condition := "__fish_" ++ program.name ++ "_needs_command"
  rules condition condition program

/-- The rules for what follows a verb of the program. -/
def verbRules (v : Verb) : List String :=
  let condition := "__fish_" ++ program.name ++ "_using_subcommand " ++ v.name
  let below := " ".intercalate (v.verbs.map (·.name))
  rules condition (condition ++ "; and not __fish_seen_subcommand_from " ++ below) v

def script : String :=
  let name := program.name
  unlines <| [
    "# Print an optspec for argparse to handle cmd's options that are independent of any " ++
      "subcommand.",
    "function __fish_" ++ name ++ "_global_optspecs",
    "    string join \\n " ++ " ".intercalate ((arranged program.flags).map specification),
    "end",
    "",
    "function __fish_" ++ name ++ "_needs_command",
    "    # Figure out if the current invocation already has a command.",
    "    set -l cmd (commandline -opc)",
    "    set -e cmd[1]",
    "    argparse -s (__fish_" ++ name ++ "_global_optspecs) -- $cmd 2>/dev/null",
    "    or return",
    "    if set -q argv[1]",
    "        # Also print the command, so this can be used to figure out what it is.",
    "        echo $argv[1]",
    "        return 1",
    "    end",
    "    return 0",
    "end",
    "",
    "function __fish_" ++ name ++ "_using_subcommand",
    "    set -l cmd (__fish_" ++ name ++ "_needs_command)",
    "    test -z \"$cmd\"",
    "    and return 1",
    "    contains -- $cmd[1] $argv",
    "end",
    ""] ++
  topRules ++ program.verbs.flatMap verbRules

end Prebuild.Command.Fish
