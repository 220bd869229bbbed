import OperatorNames.FileSystem.Basic
import OperatorNames.FileSystem.Reading
import OperatorNames.FileSystem.Storage
import OperatorNames.Log.Filter
import OperatorNames.Output
import OperatorNames.Transfer.Exchange

/-!
# The surroundings of a run

All that a run can see and change: files, variables, servers, its two output streams and its log.
-/

namespace OperatorNames

/-- Where records are logged. -/
inductive Log.Sink
  /-- At the end of a file. -/
  | file (place : Place)
  /-- On the stream for messages. -/
  | messages
  deriving DecidableEq

/-- A log that has been installed. -/
structure Log where
  /-- Where records go. -/
  sink : Log.Sink
  /-- Which records are logged. -/
  filter : Log.Filter

/-- The surroundings of a run. -/
structure Surroundings where
  /-- The files. -/
  files : FileSystem := {}
  /-- How reads divide what files hold. -/
  reading : Reading := .full
  /-- The directory from which relative paths are walked. -/
  here : Place := []
  /-- The variables that are set, with their values. -/
  values : List (Text × Text) := []
  /-- The home directory of the user's account. -/
  accountHome : Text := "/root".toList
  /-- The servers that can be reached. -/
  network : Transfer.Network := .none
  /-- What has been asked of servers, in order. -/
  requests : List Transfer.Address := []
  /-- What becomes of temporary files. -/
  storage : Storage := .ample
  /-- Where temporary files have been made, in order. -/
  temporaries : List Place := []
  /-- What becomes of the configuration file when it is made. -/
  configStorage : Storage := .ample
  /-- The stream for results. -/
  output : Writer := {}
  /-- What has been written on the stream for messages. -/
  messages : Bytes := []
  /-- The log, once it is installed. -/
  log : Option Log := none
  /-- The time at which records are logged. -/
  time : Text := []

namespace Surroundings

/-- The value of a variable that is set. -/
def valueOf? (s : Surroundings) (name : String) : Option Text :=
  s.values.lookup name.toList

/-- The working directory as an absolute path. -/
def herePath (s : Surroundings) : Text :=
  FileSystem.pathOf true s.here

end Surroundings

end OperatorNames
