import OperatorNames.Config.Toml
import OperatorNames.Output
import OperatorNames.Transfer.Fault
import OperatorNames.Url.Rejection

/-!
# Problems and how they are told

A run ends with at most one problem.  A problem has a cause and, around it, what was being done when
it came up.  `Problem.chain` tells all of it from the outside in, one text for each layer, and
`Problem.message` on one line; a cause that itself has a cause tells both and then the inner one
again.
-/

namespace OperatorNames

open Text

/-- A failure's text. -/
def Fault.text (f : Fault) : Text :=
  f.message.toList

/-- Why a document cannot be fetched. -/
inductive FetchProblem
  /-- The address is refused before anything is sent. -/
  | invalidUrl (url : Text) (reason : UrlRejection)
  /-- The transfer failed. -/
  | transport (url : Text) (fault : TransferFault)
  /-- The transfer succeeded, but the answer's status is not one of success. -/
  | status (url : Text) (code : Nat)
  /-- The document cannot be put into a temporary file. -/
  | spool (fault : Fault)
  deriving DecidableEq

/-- The layers of a fetch problem, from the outside in. -/
def FetchProblem.chain : FetchProblem → List Text
  | .invalidUrl url reason =>
    ["invalid source URL ".toList ++ quote url ++ [':', ' '] ++ reason.message]
  | .transport url fault =>
    ["GET ".toList ++ url ++ " failed: ".toList ++ fault.message.toList, fault.message.toList]
  | .status url code => ["GET ".toList ++ url ++ " returned HTTP ".toList ++ decimal code]
  | .spool fault => ["spool document to temporary file: ".toList ++ fault.text, fault.text]

/-- A pattern fault in words. -/
def PatternFault.text : PatternFault → Text
  | .malformed text => text.toList
  | .tooLarge limit =>
    "Compiled regex exceeds size limit of ".toList ++ decimal limit ++ " bytes.".toList

/-- The layers of a scan problem, from the outside in. -/
def ScanProblem.chain : ScanProblem → List Text
  | .unopened path fault => ["open ".toList ++ path ++ [':', ' '] ++ fault.text, fault.text]
  | .unread line fault =>
    ["read line ".toList ++ decimal line ++ [':', ' '] ++ fault.text, fault.text]
  | .pattern fault => ["compile operator pattern: ".toList ++ fault.text, fault.text]

/-- What was being done when a problem came up. -/
inductive Activity
  | scanDocument
  | writeOutput
  | flushOutput
  | fetch (url : Text)
  | openFile (path : Text)
  | readFile (path : Text)
  | renderManual
  deriving DecidableEq

/-- An activity in words. -/
def Activity.text : Activity → Text
  | .scanDocument => "scan document".toList
  | .writeOutput => "write output".toList
  | .flushOutput => "flush output".toList
  | .fetch url => "fetch ".toList ++ url
  | .openFile path => "open ".toList ++ path
  | .readFile path => "read ".toList ++ path
  | .renderManual => "render man page".toList

/-- Why a run, or a step of it, did not succeed. -/
inductive Problem
  /-- A document cannot be scanned. -/
  | scan (problem : ScanProblem)
  /-- A document cannot be fetched. -/
  | fetch (problem : FetchProblem)
  /-- Something cannot be read, written or made. -/
  | file (fault : Fault)
  /-- The configuration file holds no configuration. -/
  | configuration (problem : Config.ReadProblem)
  /-- The configuration cannot be written. -/
  | rendering (problem : Config.WriteProblem)
  /-- A log has been installed before. -/
  | logInstalled
  /-- A result cannot be written, and there is no going on without it. -/
  | unwritten (fault : Fault)
  /-- A problem that came up during an activity. -/
  | during (activity : Activity) (problem : Problem)

namespace Problem

/-- The layers of a problem, from the outside in. -/
def chain : Problem → List Text
  | .scan problem => problem.chain
  | .fetch problem => problem.chain
  | .file fault => [fault.text]
  | .configuration problem => [problem.message]
  | .rendering problem => [problem.message.toList]
  | .logInstalled =>
    ["install subscriber: a global default trace dispatcher has already been set".toList]
  | .unwritten fault => ["failed printing to stdout: ".toList ++ fault.text]
  | .during activity problem => activity.text :: problem.chain

/-- A problem on one line. -/
def message (p : Problem) : Text :=
  joinWith [':', ' '] p.chain

/-- The problem of an emission that broke off. -/
def ofEmission : EmitProblem → Problem
  | .scanning problem => .during .scanDocument (.scan problem)
  | .writing fault => .during .writeOutput (.file fault)
  | .flushing fault => .during .flushOutput (.file fault)

end Problem

end OperatorNames
