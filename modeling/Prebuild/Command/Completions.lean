import Prebuild.Command.Completions.Bash
import Prebuild.Command.Completions.Elvish
import Prebuild.Command.Completions.Fish
import Prebuild.Command.Completions.Powershell
import Prebuild.Command.Completions.Zsh

/-!
# Completion scripts
-/

namespace Prebuild.Command

/-- The script that completes command lines of the program in a shell. -/
def Shell.script : Shell → String
  | .bash => Bash.script
  | .elvish => Elvish.script
  | .fish => Fish.script
  | .powershell => Powershell.script
  | .zsh => Zsh.script

end Prebuild.Command
