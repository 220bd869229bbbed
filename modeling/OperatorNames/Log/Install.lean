import OperatorNames.HomeDirectories

/-!
# Installing the log

The log goes to a file of the program's own; where that file cannot be opened, records go to the
stream for messages.  A log is installed once.
-/

namespace OperatorNames.Log

/-- Which records the user wants logged. -/
def wanted (s : Surroundings) : Filter :=
  Filter.ofVariable (s.valueOf? "RUST_LOG")

/-- Opens the file of the log. -/
def openFile (path : Text) : Job Place :=
  fun s =>
    match s.files.openToAppend s.here path with
    | .ok (place, files) => (.ok place, { s with files })
    | .error fault => (.error (.file fault), s)

/-- Installs a log, unless there is one. -/
def install (sink : Sink) : Job Unit :=
  fun s =>
    match s.log with
    | some _ => (.error .logInstalled, s)
    | none => (.ok (), { s with log := some { sink, filter := wanted s } })

/-- Installs a log in a file. -/
def toFile : Job Unit := do
  Job.makeAll (← Job.see (·.logDirectory))
  let path ← Job.see (·.logPath)
  let place ← openFile path
  install (.file place)
  Job.note (.started path)

/-- Installs a log on the stream for messages, unless there is one. -/
def toMessages (s : Surroundings) : Surroundings :=
  (install .messages s).2

/-- Installs a log: in a file if that can be done. -/
def start (s : Surroundings) : Surroundings :=
  match toFile s with
  | (.ok (), s) => s
  | (.error problem, s) => Job.noted (.fallback problem) (toMessages s)

end OperatorNames.Log
