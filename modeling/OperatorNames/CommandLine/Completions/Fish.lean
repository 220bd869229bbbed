import OperatorNames.CommandLine.Outline

/-!
# Completion in Fish
-/

namespace OperatorNames.CommandLine.Fish

open Text

/-- The beginning of the name of a function. -/
def own (name : String) : Text :=
  between "__fish_" program "_" ++ name.toList

/-- A line that completes something where a condition holds. -/
def rule (condition rest : Text) : Text :=
  between "complete -c " program " -n \"" ++ condition ++ '"' :: rest

/-- What is said about a choice. -/
def description (t : Text) : Text :=
  between " -d \x27" t "\x27"

/-- An option with a value. -/
def valueRule (condition : Text) (option : ValueOption) : Text :=
  let ending := match option with
    | .url => " -r".toList
    | .file => " -r -F".toList
  rule condition (between " -l " option.name "" ++ description option.about ++ ending)

/-- The option that asks for help. -/
def helpRule (condition : Text) : Text :=
  rule condition (" -s h -l help".toList ++ description aboutHelp)

/-- A topic that can be named. -/
def topicRule (condition : Text) (topic : Topic) : Text :=
  rule condition (between " -f -a \"" topic.word "\"" ++ description topic.about)

/-- The condition that a path has been given, and no topic after it. -/
def condition (o : Outline) : Text :=
  match o.path with
  | [] => own "needs_command"
  | path =>
    own "using_subcommand" ++ ' ' :: joinWith [' '] (path.map Topic.word)
      ++ if o.topics.isEmpty then []
        else between "; and not __fish_seen_subcommand_from "
          (joinWith [' '] (o.topics.map Topic.word)) ""

/-- What can be given after a path. -/
def rules (o : Outline) : List Text :=
  o.options.map (valueRule (condition o))
    ++ (if o.hasHelp then [helpRule (condition o)] else [])
    ++ o.topics.map (topicRule (condition o))

/-- The script. -/
def script : Text :=
  linesText (
    ["# Print an optspec for argparse to handle cmd\x27s options ".toList
        ++ "that are independent of any subcommand.".toList,
      between "function " (own "global_optspecs") "",
      "    string join \\n h/help".toList,
      "end".toList,
      [],
      between "function " (own "needs_command") "",
      "    # Figure out if the current invocation already has a command.".toList,
      "    set -l cmd (commandline -opc)".toList,
      "    set -e cmd[1]".toList,
      between "    argparse -s (" (own "global_optspecs") ") -- $cmd 2>/dev/null",
      "    or return".toList,
      "    if set -q argv[1]".toList,
      "        # Also print the command, so this can be used to figure out what it is.".toList,
      "        echo $argv[1]".toList,
      "        return 1".toList,
      "    end".toList,
      "    return 0".toList,
      "end".toList,
      [],
      between "function " (own "using_subcommand") "",
      between "    set -l cmd (" (own "needs_command") ")",
      "    test -z \"$cmd\"".toList,
      "    and return 1".toList,
      "    contains -- $cmd[1] $argv".toList,
      "end".toList,
      []]
    ++ (Outline.ofProgram :: Topic.all.map Outline.ofTopic).flatMap rules)

end OperatorNames.CommandLine.Fish
