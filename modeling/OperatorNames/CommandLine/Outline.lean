import OperatorNames.CommandLine.Basic

/-!
# What the commands are for

The description of the command line from which the help pages, the manual page and the completion
scripts are written.
-/

namespace OperatorNames

open Text

namespace CommandLine

/-- The word by which the program is called. -/
def program : Text := "opname".toList

/-- What the program is for. -/
def about : Text :=
  "Derive runtime operator names from the WebAssembly SIMD implementation-status document".toList

/-- What the option that asks for help is for. -/
def aboutHelp : Text := "Print help".toList

end CommandLine

/-- What a topic is for. -/
def Topic.about : Topic → Text
  | .names => "Print each operator name as `\"Name\",` (default)".toList
  | .pairs => "Print each operator as `token -- Name`".toList
  | .digest => "Fetch the document and print its SHA-256".toList
  | .completions => "Print a shell completion script".toList
  | .man => "Print the man page (roff)".toList
  | .help => "Print this message or the help of the given subcommand(s)".toList

/-- What an option is for. -/
def ValueOption.about : ValueOption → Text
  | .url => "Fetch this URL instead of the configured source".toList
  | .file => "Scan a local file instead of fetching".toList

/-- What stands for the value of an option. -/
def ValueOption.placeholder : ValueOption → Text
  | .url => "URL".toList
  | .file => "PATH".toList

namespace CommandLine

/-- What can follow some words of a command line. -/
structure Outline where
  /-- The words: none for the program itself, a topic, or `help` and a topic. -/
  path : List Topic
  /-- The options that take a value. -/
  options : List ValueOption := []
  /-- Whether help can be asked for by an option. -/
  hasHelp : Bool := true
  /-- The topics that can be named. -/
  topics : List Topic := []
  /-- The shells that can be named. -/
  shells : List Shell := []

namespace Outline

/-- The outline of the program itself. -/
def ofProgram : Outline :=
  { path := [], topics := Topic.all }

/-- The outline of a topic. -/
def ofTopic (topic : Topic) : Outline :=
  { path := [topic]
    options := topic.options
    hasHelp := topic ≠ .help
    topics := if topic = .help then Topic.all else []
    shells := if topic = .completions then Shell.all else [] }

/-- The outline of a topic that help is asked for. -/
def ofHelpOn (topic : Topic) : Outline :=
  { path := [.help, topic], hasHelp := false }

/-- The words that can be named, whatever they stand for. -/
def words (o : Outline) : List Text :=
  o.topics.map Topic.word ++ o.shells.map Shell.name

/-- The path in writing, with a text between its words. -/
def key (o : Outline) (between : Text) : Text :=
  joinWith between (program :: o.path.map Topic.word)

/-- The outlines of some topics, each with those below it. -/
def ofTopics (order : List Topic) : List Outline :=
  order.flatMap fun topic =>
    ofTopic topic :: if topic = .help then order.map ofHelpOn else []

/-- All outlines, in the order in which topics are listed. -/
def all : List Outline :=
  ofProgram :: ofTopics Topic.all

/-- The topics in alphabetical order. -/
def alphabetical : List Topic :=
  [.completions, .digest, .help, .man, .names, .pairs]

end Outline

/-- Lines of a text, each with its end. -/
def linesText (lines : List Text) : Text :=
  lines.flatMap fun line => line ++ ['\n']

/-- A text within two others. -/
def between (before : String) (t : Text) (after : String) : Text :=
  before.toList ++ t ++ after.toList

end CommandLine

end OperatorNames
