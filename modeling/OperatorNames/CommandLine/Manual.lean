import OperatorNames.CommandLine.Outline

/-!
# The manual page

The manual page of the program, in the requests of the formatter that such pages are written for.
-/

namespace OperatorNames.CommandLine

open Text

/-- A text with its hyphens made fast, so that they stay hyphens. -/
def fastHyphens (t : Text) : Text :=
  t.flatMap fun c => if c = '-' then ['\\', '-'] else [c]

/-- A text in bold. -/
def bold (t : Text) : Text :=
  between "\\fB" (fastHyphens t) "\\fR"

/-- The entry of a topic. -/
def manualEntry (topic : Topic) : List Text :=
  [".TP".toList, fastHyphens (program ++ '-' :: topic.word) ++ "(1)".toList,
    fastHyphens topic.about]

/-- The manual page. -/
def manualPage : Text :=
  let short := bold "-h".toList
  let long := bold "--help".toList
  linesText
    ([".ie \\n(.g .ds Aq \\(aq".toList, ".el .ds Aq \x27".toList,
      between ".TH " program " 1  \"" ++ between "" program " \" ",
      ".SH NAME".toList,
      program ++ " \\- ".toList ++ fastHyphens about,
      ".SH SYNOPSIS".toList,
      bold program ++ " [".toList ++ short ++ ['|'] ++ long ++ "] [\\fIsubcommands\\fR]".toList,
      ".SH DESCRIPTION".toList,
      fastHyphens about,
      ".SH OPTIONS".toList,
      ".TP".toList,
      short ++ ", ".toList ++ long,
      aboutHelp,
      ".SH SUBCOMMANDS".toList]
      ++ Topic.all.flatMap manualEntry)

end OperatorNames.CommandLine
