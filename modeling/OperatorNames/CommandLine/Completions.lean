import OperatorNames.CommandLine.Completions.Bash
import OperatorNames.CommandLine.Completions.Elvish
import OperatorNames.CommandLine.Completions.Fish
import OperatorNames.CommandLine.Completions.PowerShell
import OperatorNames.CommandLine.Completions.Zsh

/-!
# Completion scripts
-/

namespace OperatorNames

/-- The completion script of a shell. -/
def Shell.script : Shell → Text
  | .bash => CommandLine.Bash.script
  | .elvish => CommandLine.Elvish.script
  | .fish => CommandLine.Fish.script
  | .powershell => CommandLine.PowerShell.script
  | .zsh => CommandLine.Zsh.script

end OperatorNames
