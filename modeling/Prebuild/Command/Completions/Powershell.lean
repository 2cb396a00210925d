import Prebuild.Command.Completions.Basic

/-!
# Completion for PowerShell

The script switches on the verbs so far and lists the results behind them. As upper and lower
case count the same to the shell, a short flag in upper case is shown with a space.
-/

namespace Prebuild.Command.Powershell

def result (form shown sort help : String) : String :=
  "            [CompletionResult]::new('" ++ form ++ "', '" ++ shown ++
    "', [CompletionResultType]::" ++ sort ++ ", " ++ quoted "''" help ++ ")"

/-- The results for a flag. -/
def flagResults (f : Flag) : List String :=
  let short := f.short?.toList.map fun c =>
    let form := "-" ++ String.singleton c
    result form (if c.isUpper then form ++ " " else form) "ParameterName" f.help
  short ++ [result f.longForm f.longForm "ParameterName" f.help]

/-- The results behind a verb. -/
def branch (p : VerbAt) : List String :=
  ["        '" ++ p.joined ";" ++ "' \x7b"] ++
  (arranged p.verb.flags).flatMap flagResults ++
  (p.verb.verbs.map fun v => result v.name v.name "ParameterValue" v.help) ++
  ["            break", "        \x7d"]

def script : String :=
  let name := program.name
  unlines <| [
    "",
    "using namespace System.Management.Automation",
    "using namespace System.Management.Automation.Language",
    "",
    "Register-ArgumentCompleter -Native -CommandName '" ++ name ++ "' -ScriptBlock \x7b",
    "    param($wordToComplete, $commandAst, $cursorPosition)",
    "",
    "    $commandElements = $commandAst.CommandElements",
    "    $command = @(",
    "        '" ++ name ++ "'",
    "        for ($i = 1; $i -lt $commandElements.Count; $i++) \x7b",
    "            $element = $commandElements[$i]",
    "            if ($element -isnot [StringConstantExpressionAst] -or",
    "                $element.StringConstantType -ne [StringConstantType]::BareWord -or",
    "                $element.Value.StartsWith('-') -or",
    "                $element.Value -eq $wordToComplete) \x7b",
    "                break",
    "        \x7d",
    "        $element.Value",
    "    \x7d) -join ';'",
    "",
    "    $completions = @(switch ($command) \x7b"] ++
  VerbAt.all.flatMap branch ++ [
    "    \x7d)",
    "",
    "    $completions.Where\x7b $_.CompletionText -like \"$wordToComplete*\" \x7d |",
    "        Sort-Object -Property ListItemText",
    "\x7d"]

end Prebuild.Command.Powershell
