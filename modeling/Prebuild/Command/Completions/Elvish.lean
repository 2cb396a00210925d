import Prebuild.Command.Completions.Basic

/-!
# Completion for Elvish

The script is a table from the verbs so far to the candidates behind them.
-/

namespace Prebuild.Command.Elvish

def candidate (form help : String) : String :=
  "            cand " ++ form ++ " " ++ quoted "''" help

/-- The candidates behind a verb. -/
def row (p : VerbAt) : List String :=
  ["        &'" ++ p.joined ";" ++ "'= \x7b"] ++
  ((arranged p.verb.flags).flatMap fun f =>
    (f.shortForm?.toList ++ [f.longForm]).map fun form => candidate form f.help) ++
  (p.verb.verbs.map fun v => candidate v.name v.help) ++
  ["        \x7d"]

def script : String :=
  let name := program.name
  unlines <| [
    "",
    "use builtin;",
    "use str;",
    "",
    "set edit:completion:arg-completer[" ++ name ++ "] = \x7b|@words|",
    "    fn spaces \x7b|n|",
    "        builtin:repeat $n ' ' | str:join ''",
    "    \x7d",
    "    fn cand \x7b|text desc|",
    "        edit:complex-candidate $text &display=$text' '(spaces (- 14 (wcswidth $text)))$desc",
    "    \x7d",
    "    var command = '" ++ name ++ "'",
    "    for word $words[1..-1] \x7b",
    "        if (str:has-prefix $word '-') \x7b",
    "            break",
    "        \x7d",
    "        set command = $command';'$word",
    "    \x7d",
    "    var completions = ["] ++
  VerbAt.all.flatMap row ++ [
    "    ]",
    "    $completions[$command]",
    "\x7d"]

end Prebuild.Command.Elvish
