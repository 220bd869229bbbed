import OperatorNames.CommandLine.Outline

/-!
# Help pages

The page of the program and the page of each topic: what it is for, how it is called, and tables of
what can be given.
-/

namespace OperatorNames.CommandLine

open Text

/-- A row of a table: what can be given, and what it is for. -/
abbrev Row := Text × Text

/-- A table under a heading.  The second column starts two places after the longest entry of the
first. -/
def table (heading : String) (rows : List Row) : List Text :=
  let width := (rows.map fun (left, _) => left.length).foldl max 0
  [] :: heading.toList :: rows.map fun (left, right) =>
    [' ', ' '] ++ left ++ List.replicate (width - left.length) ' ' ++ [' ', ' '] ++ right

/-- The row of the option that asks for help. -/
def helpRow : Row :=
  ("-h, --help".toList, aboutHelp)

/-- The row of an option with a value. -/
def optionRow (option : ValueOption) : Row :=
  (between "    --" option.name " <" ++ option.placeholder ++ ['>'], option.about)

/-- The row of a topic. -/
def topicRow (topic : Topic) : Row :=
  (topic.word, topic.about)

/-- The row of the argument that names a shell. -/
def shellRow : Row :=
  ("<SHELL>".toList,
    between "[possible values: " (joinWith [',', ' '] (Shell.all.map Shell.name)) "]")

/-- The row of the arguments that name a topic. -/
def helpTopicRow : Row :=
  ("[COMMAND]...".toList, "Print help for the subcommand(s)".toList)

/-- What follows the word of a topic. -/
def usage : Topic → Text
  | .names | .pairs | .digest => " [OPTIONS]".toList
  | .completions => " <SHELL>".toList
  | .man => []
  | .help => " [COMMAND]...".toList

/-- A page. -/
def page (about usage : Text) (tables : List (List Text)) : Text :=
  linesText (about :: [] :: between "Usage: " usage "" :: tables.flatten)

/-- The page on a topic, or on the program as a whole. -/
def helpPage : Option Topic → Text
  | none =>
    page about (program ++ " [COMMAND]".toList)
      [table "Commands:" (Topic.all.map topicRow), table "Options:" [helpRow]]
  | some topic =>
    page topic.about (program ++ ' ' :: topic.word ++ usage topic)
      (match topic with
      | .help => [table "Arguments:" [helpTopicRow]]
      | .completions => [table "Arguments:" [shellRow], table "Options:" [helpRow]]
      | topic => [table "Options:" (topic.options.map optionRow ++ [helpRow])])

end OperatorNames.CommandLine
