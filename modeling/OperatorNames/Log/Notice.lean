import OperatorNames.Log.Filter
import OperatorNames.Problem

/-!
# What is logged

A notice says what has just happened, or what has gone wrong.  Each kind has a level, a target and
a wording; `record` puts them on a line.
-/

namespace OperatorNames.Log

open Text

/-- Something worth logging. -/
inductive Notice
  /-- The log goes to a file. -/
  | started (path : Text)
  /-- The log cannot go to a file. -/
  | fallback (problem : Problem)
  /-- A configuration file was made. -/
  | configCreated (path : Text)
  /-- The configuration file was read. -/
  | configRead (path : Text)
  /-- The configuration that holds. -/
  | configInUse (config : Config)
  /-- A document is about to be fetched. -/
  | fetching (url : Text)
  /-- A request is about to be sent. -/
  | request (url : Text)
  /-- The response was not one of success. -/
  | refused (url : Text) (status : Nat)
  /-- The response was one of success. -/
  | received (url : Text) (status length : Nat)
  /-- The document was put into a temporary file. -/
  | spooled (length : Nat) (path digest : Text)
  /-- A document is about to be scanned. -/
  | scanning (path : Text) (skip : Nat)
  /-- A document was scanned to its end. -/
  | scanned (lines operators : Nat)
  /-- The digest of the document that was scanned. -/
  | sourceDigest (digest : Text)
  /-- The digest that was asked for. -/
  | digested (length : Nat) (url digest : Text)
  /-- The run has failed. -/
  | failed (problem : Problem)

namespace Notice

/-- How serious a notice is. -/
def level : Notice → Level
  | .started .. | .configCreated .. | .fetching .. | .received .. | .scanned .. | .digested .. =>
    .info
  | .fallback .. | .refused .. => .warn
  | .failed .. => .error
  | .configRead .. | .configInUse .. | .request .. | .spooled .. | .scanning ..
  | .sourceDigest .. => .debug

/-- The part of the program that gives the notice. -/
def target : Notice → Text
  | .started .. => "opname_core::logging".toList
  | .fallback .. | .failed .. => "opname".toList
  | .configCreated .. | .configRead .. => "opname_core::config".toList
  | .configInUse .. => "opname::cli".toList
  | .fetching .. | .scanned .. | .digested .. => "opname_core::driver".toList
  | .request .. | .refused .. | .received .. | .spooled .. => "opname_core::fetch".toList
  | .scanning .. => "opname_core::extract".toList
  | .sourceDigest .. => "opname::cli::commands::extract".toList

/-- A notice in words. -/
def message : Notice → Text
  | .started path => "opname logging initialized at ".toList ++ path
  | .fallback problem => "file logging unavailable, using stderr: ".toList ++ problem.message
  | .configCreated path => "created default config at ".toList ++ path
  | .configRead path => "loaded config from ".toList ++ path
  | .configInUse config => "loaded config: ".toList ++ config.describe
  | .fetching url => "fetching ".toList ++ url
  | .request url => "GET ".toList ++ url
  | .refused url status => "GET ".toList ++ url ++ " returned HTTP ".toList ++ decimal status
  | .received url status length =>
    "GET ".toList ++ url ++ " -> HTTP ".toList ++ decimal status ++ [',', ' '] ++ decimal length
      ++ " bytes".toList
  | .spooled length path digest =>
    "spooled ".toList ++ decimal length ++ " bytes to ".toList ++ path ++ " (sha256 ".toList
      ++ digest ++ [')']
  | .scanning path skip =>
    "scanning ".toList ++ path ++ " (skipping ".toList ++ decimal skip ++ " lines)".toList
  | .scanned lines operators =>
    "scanned ".toList ++ decimal lines ++ " lines, found ".toList ++ decimal operators
      ++ " operators".toList
  | .sourceDigest digest => "source document sha256 ".toList ++ digest
  | .digested length url digest =>
    decimal length ++ " bytes from ".toList ++ url ++ ": sha256 ".toList ++ digest
  | .failed problem => problem.message

/-- A character as it stands in the log: controls that a terminal would act on are escaped. -/
def shown (c : Char) : Text :=
  let n := c.toNat
  if n = 0x07 || n = 0x08 || n = 0x0C || n = 0x1B || n = 0x7F then
    ['\\', 'x', hexDigit (n / 16), hexDigit (n % 16)]
  else if 0x80 ≤ n && n ≤ 0x9F then ['\\', 'u', '\x7b'] ++ hex n ++ ['\x7d']
  else [c]

/-- A notice as it is logged, after the time at which it was given. -/
def record (time : Text) (notice : Notice) : Text :=
  let name := notice.level.name.toList
  time ++ [' '] ++ List.replicate (5 - name.length) ' ' ++ name ++ [' '] ++ notice.target
    ++ [':', ' '] ++ notice.message.flatMap shown ++ ['\n']

/-- Whether a filter lets a notice into the log. -/
def passes (filter : Filter) (notice : Notice) : Bool :=
  filter.lets notice.target notice.level

end Notice

end OperatorNames.Log
