import OperatorNames.Text.Quoted

/-!
# Configuration

What a run needs to know beside its command line, with the values that hold where nothing else is
said.
-/

namespace OperatorNames

open Text

/-- The configuration of the program. -/
structure Config where
  /-- The document that is fetched when the command line names none. -/
  sourceUrl : Text
  /-- How many lines at the top of a document are passed over. -/
  skipLines : UInt64 := 2
  /-- How many seconds a connection may take to come about; the transport's limit if absent. -/
  connectTimeout : Option UInt64 := none
  /-- How many seconds a whole transfer may take; any time if absent. -/
  timeout : Option UInt64 := none
  /-- How many redirections are followed. -/
  maxRedirects : UInt32 := 10
  deriving DecidableEq

namespace Config

/-- The configuration that holds where nothing is said. -/
def standard : Config :=
  { sourceUrl := "https://raw.githubusercontent.com/WebAssembly/simd/main/".toList
      ++ "proposals/simd/ImplementationStatus.md".toList }

/-- A number of seconds that may be absent, in the form that the log shows. -/
def describeSeconds : Option UInt64 → Text
  | none => "None".toList
  | some n => "Some(".toList ++ decimal n.toNat ++ [')']

/-- A configuration in the form that the log shows. -/
def describe (c : Config) : Text :=
  "OpnameConfig \x7b source_url: ".toList ++ quote c.sourceUrl
    ++ ", skip_lines: ".toList ++ decimal c.skipLines.toNat
    ++ ", connect_timeout_secs: ".toList ++ describeSeconds c.connectTimeout
    ++ ", timeout_secs: ".toList ++ describeSeconds c.timeout
    ++ ", max_redirections: ".toList ++ decimal c.maxRedirects.toNat ++ " \x7d".toList

end Config

end OperatorNames
