import OperatorNames.HomeDirectories

/-!
# The configuration file

`Config.load` gives the configuration that a run uses.  Where there is no configuration file yet,
one with the standard configuration is made; one that is there is only read.  If the file cannot be
written to its end, what has been written of it stays.
-/

namespace OperatorNames.Config

/-- Finds the path of the configuration file and makes the directories that lead to it. -/
def locate : Job Text := do
  Job.makeAll (← Job.see (·.configDirectory))
  Job.see (·.configPath)

/-- Makes the configuration file. -/
def create (path : Text) : Job Config := do
  let document ← Job.orProblem .rendering standard.toToml
  Job.alter fun s => s.files.writeWithin s.configStorage s.here path (Text.Utf8.encode document)
  Job.note (.configCreated path)
  return standard

/-- Reads the configuration file. -/
def ofFile (path : Text) : Job Config := do
  let content ← Job.inspect .file (·.read · path)
  match Text.Utf8.decode content with
  | none => Job.fail (.file .notUtf8)
  | some document =>
    let config ← Job.orProblem .configuration (ofToml document)
    Job.note (.configRead path)
    return config

/-- The configuration that a run uses. -/
def load : Job Config := do
  let path ← locate
  if ← Job.see fun s => s.files.has s.here path then ofFile path else create path

end OperatorNames.Config
