import OperatorNames.Job

/-!
# Where the program keeps its own files

The configuration and the log each have a directory below one that a variable names, or below the
user's home directory where the variable names no absolute path.
-/

namespace OperatorNames

/-- The name of the program, of its variables' directories and of its files. -/
def programName : Text := "opname".toList

namespace Surroundings

/-- The user's home directory. -/
def home (s : Surroundings) : Text :=
  (s.valueOf? "HOME").getD s.accountHome

/-- The program's directory below the directory that a variable names, or below a directory of the
home directory. -/
def ownDirectory (s : Surroundings) (name : String) (usual : String) : Text :=
  let base := match s.valueOf? name with
    | some given =>
      if FileSystem.isAbsolute given then given else FileSystem.join s.home usual.toList
    | none => FileSystem.join s.home usual.toList
  FileSystem.join base programName

/-- The directory of the configuration file. -/
def configDirectory (s : Surroundings) : Text :=
  s.ownDirectory "XDG_CONFIG_HOME" ".config"

/-- The directory of the log. -/
def logDirectory (s : Surroundings) : Text :=
  s.ownDirectory "XDG_STATE_HOME" ".local/state"

/-- The path of the configuration file. -/
def configPath (s : Surroundings) : Text :=
  FileSystem.join s.configDirectory "config.toml".toList

/-- The path of the log. -/
def logPath (s : Surroundings) : Text :=
  FileSystem.join s.logDirectory "opname.log".toList

end Surroundings

namespace Job

/-- Makes a directory and those above it that are missing. -/
def makeAll (path : Text) : Job Unit :=
  alter fun s => s.files.makeAll s.here path

end Job

end OperatorNames
