import OperatorNames.CommandLine.Completions
import OperatorNames.CommandLine.Help
import OperatorNames.CommandLine.Manual
import OperatorNames.CommandLine.Read
import OperatorNames.Config.Store
import OperatorNames.Log.Install
import OperatorNames.Run

/-!
# The program

`Program.run` is a whole run of the program: it installs the log, reads the arguments, loads the
configuration where the command needs one, carries the command out, and ends with a status.  Results
go to one stream and everything else to the other or to the log.
-/

namespace OperatorNames.Program

open Text

/-- Writes a text on the stream for results. -/
def print (problem : Fault → Problem) (t : Text) : Job Unit :=
  fun s =>
    let (result, output) := s.output.write (Utf8.encode t)
    Job.orProblem problem result { s with output }

/-- Writes a text on the stream for messages. -/
def tell (t : Text) (s : Surroundings) : Surroundings :=
  { s with messages := s.messages ++ Utf8.encode t }

/-- Writes the operators of a document. -/
def writeOperators (config : Config) (style : Style) (url file : Option Text) : Job Unit := do
  let summary ← OperatorNames.run (.select url file config) config style
  match summary.digest with
  | some digest => Job.note (.sourceDigest digest)
  | none => return

/-- Writes the digest of a document, with its address as it was given. -/
def writeDigest (config : Config) (url : Option Text) : Job Unit := do
  let url := url.getD config.sourceUrl
  let digest ← digestOfUrl url config
  print .unwritten (digest ++ [' ', ' '] ++ url ++ ['\n'])

/-- Writes a completion script. -/
def writeCompletions (shell : Shell) : Job Unit :=
  print .unwritten shell.script

/-- Writes the manual page. -/
def writeManual : Job Unit :=
  print (fun fault => .during .renderManual (.file fault)) CommandLine.manualPage

/-- The configuration that a command is carried out with. -/
def configuration : Job Config := do
  let config ← Config.load
  Job.note (.configInUse config)
  return config

/-- Carries a command out.  Completion scripts and the manual page need no configuration. -/
def perform : Command → Job Unit
  | .operators style url file => do writeOperators (← configuration) style url file
  | .digest url => do writeDigest (← configuration) url
  | .completions shell => writeCompletions shell
  | .manual => writeManual

/-- What is told of arguments that cannot be read. -/
def misuseText (misuse : CommandLine.Misuse) : Text :=
  let complaint := match misuse with
    | .unknownArgument => "unexpected argument found"
    | .unknownCommand => "unrecognized subcommand"
    | .badValue => "invalid or missing value for an argument"
    | .conflict => "arguments cannot be used together"
    | .missingArgument => "a required argument was not provided"
    | .needlessValue => "unexpected value for an argument"
  CommandLine.linesText
    ["error: ".toList ++ complaint.toList, [], "For more information, try \x27--help\x27.".toList]

/-- The status of a run that came to a problem, and the surroundings after it was told.  A result
that could not be written is told of on the spot; everything else is logged too. -/
def conclude (problem : Problem) (s : Surroundings) : Nat × Surroundings :=
  match problem with
  | .unwritten _ => (101, tell (problem.message ++ ['\n']) s)
  | _ =>
    (1, tell (CommandLine.program ++ " error: ".toList ++ problem.message ++ ['\n'])
      (Job.noted (.failed problem) s))

/-- A run after the log has been installed. -/
def runLogged (arguments : List Text) (s : Surroundings) : Nat × Surroundings :=
  match CommandLine.read arguments with
  | .error misuse => (2, tell (misuseText misuse) s)
  | .ok (.help topic) => (0, (print .file (CommandLine.helpPage topic) s).2)
  | .ok (.command command _) =>
    match perform command s with
    | (.ok (), s) => (0, s)
    | (.error problem, s) => conclude problem s

/-- A run of the program with arguments, its own name not among them: the status that it ends with,
and the surroundings that it leaves. -/
def run (arguments : List Text) (s : Surroundings) : Nat × Surroundings :=
  runLogged arguments (Log.start s)

end OperatorNames.Program
