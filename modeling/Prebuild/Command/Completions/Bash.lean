import Prebuild.Command.Completions.Basic

/-!
# Completion for bash

The script first finds the verb among the words so far, then offers its flags, choices and
verbs, or files where a flag waits for its value.
-/

namespace Prebuild.Command.Bash

/-- Notes that a name behind one verb leads to the next. -/
def transition (p : VerbAt) : List String :=
  let parent : VerbAt := { p with path := p.path.dropLast }
  match p.path.getLast? with
  | none => []
  | some name => [
      "            " ++ parent.symbol ++ "," ++ name ++ ")",
      "                cmd=\"" ++ p.symbol ++ "\"",
      "                ;;"]

/-- The verbs below the program, in the order of their parents and then of their names. -/
def byParent : List VerbAt :=
  VerbAt.sorted.mergeSort fun a b => !(b.path.dropLast < a.path.dropLast)

/-- Everything that may follow a verb. -/
def offers (v : Verb) : List String :=
  v.flags.filterMap Flag.shortForm? ++ v.flags.map Flag.longForm ++
    ((v.argument?.map (·.choices)).getD []).map (·.name) ++ v.verbs.map (·.name)

/-- Offers files behind a flag that waits for its value. -/
def waiting (form : String) : List String := [
  "                " ++ form ++ ")",
  "                    COMPREPLY=($(compgen -f \"$\x7bcur\x7d\"))",
  "                    return 0",
  "                    ;;"]

/-- What is offered behind a verb. -/
def branch (p : VerbAt) : List String :=
  let forms := (p.verb.flags.filter Flag.takesValue).flatMap fun f =>
    f.longForm :: f.shortForm?.toList
  [
    "        " ++ p.symbol ++ ")",
    "            opts=\"" ++ " ".intercalate (offers p.verb) ++ "\"",
    "            if [[ $\x7bcur\x7d == -* || $\x7bCOMP_CWORD\x7d -eq " ++ toString p.names.length ++
      " ]] ; then",
    "                COMPREPLY=( $(compgen -W \"$\x7bopts\x7d\" -- \"$\x7bcur\x7d\") )",
    "                return 0",
    "            fi",
    "            case \"$\x7bprev\x7d\" in"] ++
  forms.flatMap waiting ++ [
    "                *)",
    "                    COMPREPLY=()",
    "                    ;;",
    "            esac",
    "            COMPREPLY=( $(compgen -W \"$\x7bopts\x7d\" -- \"$\x7bcur\x7d\") )",
    "            return 0",
    "            ;;"]

def script : String :=
  let name := program.name
  unlines <| [
    "_" ++ name ++ "() \x7b",
    "    local i cur prev opts cmd",
    "    COMPREPLY=()",
    "    if [[ \"$\x7bBASH_VERSINFO[0]\x7d\" -ge 4 ]]; then",
    "        cur=\"$2\"",
    "    else",
    "        cur=\"$\x7bCOMP_WORDS[COMP_CWORD]\x7d\"",
    "    fi",
    "    prev=\"$3\"",
    "    cmd=\"\"",
    "    opts=\"\"",
    "",
    "    for i in \"$\x7bCOMP_WORDS[@]:0:COMP_CWORD\x7d\"",
    "    do",
    "        case \"$\x7bcmd\x7d,$\x7bi\x7d\" in",
    "            \",$1\")",
    "                cmd=\"" ++ name ++ "\"",
    "                ;;"] ++
  byParent.flatMap transition ++ [
    "            *)",
    "                ;;",
    "        esac",
    "    done",
    "",
    "    case \"$\x7bcmd\x7d\" in"] ++
  VerbAt.sorted.flatMap branch ++ [
    "    esac",
    "\x7d",
    "",
    "if [[ \"$\x7bBASH_VERSINFO[0]\x7d\" -eq 4 && \"$\x7bBASH_VERSINFO[1]\x7d\" -ge 4 || " ++
      "\"$\x7bBASH_VERSINFO[0]\x7d\" -gt 4 ]]; then",
    "    complete -F _" ++ name ++ " -o nosort -o bashdefault -o default " ++ name,
    "else",
    "    complete -F _" ++ name ++ " -o bashdefault -o default " ++ name,
    "fi"]

end Prebuild.Command.Bash
