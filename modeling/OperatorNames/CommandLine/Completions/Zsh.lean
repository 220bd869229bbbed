import OperatorNames.CommandLine.Outline

/-!
# Completion in Zsh
-/

namespace OperatorNames.CommandLine.Zsh

open Text

/-- The text between the words of the name of a function. -/
def joint : Text := "__subcmd__".toList

/-- The function that lists what can be named after a path. -/
def listing (o : Outline) : Text :=
  between "_" (o.key joint) "_commands"

/-- A text as it stands in quotes: backquotes keep their meaning only behind a backslash. -/
def quoted (t : Text) : Text :=
  t.flatMap fun c => if c = '`' then ['\\', '`'] else [c]

/-- A line that another one follows. -/
def continued (t : Text) : Text :=
  t ++ " \\".toList

/-- An option with a value.  The options after it exclude it. -/
def valueSpec (option : ValueOption) (later : List ValueOption) : Text :=
  let excluded := later.map fun other => between "--" other.name ""
  let group := if excluded.isEmpty then [] else between "(" (joinWith [' '] excluded) ")"
  let action := match option with
    | .url => "_default".toList
    | .file => "_files".toList
  between "\x27" group "--" ++ option.name ++ between "=[" option.about "]:"
    ++ option.placeholder ++ ':' :: action ++ ['\x27']

/-- Options with a value. -/
def valueSpecs : List ValueOption → List Text
  | [] => []
  | option :: later => valueSpec option later :: valueSpecs later

/-- What can be given after a path. -/
def specs (o : Outline) : List Text :=
  valueSpecs o.options
    ++ (if o.hasHelp then
      [between "\x27-h[" aboutHelp "]\x27", between "\x27--help[" aboutHelp "]\x27"] else [])
    ++ (if o.shells.isEmpty then []
      else [between "\x27:shell:(" (joinWith [' '] (o.shells.map Shell.name)) ")\x27"])
    ++ (if o.topics.isEmpty then []
      else [between "\":: :" (listing o) "\"",
        between "\"*::: :->" ((o.path.getLast?.map Topic.word).getD program) "\""])

/-- The call that completes what can be given after a path. -/
def call (indent : String) (o : Outline) : List Text :=
  (indent.toList ++ "_arguments \"${_arguments_options[@]}\" : \\".toList)
    :: (specs o).map continued ++ ["&& ret=0".toList]

/-- How completion goes on with the topic that has been named after a path. -/
def dispatch (o : Outline) (cases : List Text) : List Text :=
  let last := (o.path.getLast?.map Topic.word).getD program
  ["    case $state in".toList,
    between "    (" last ")",
    "        words=($line[1] \"${words[@]}\")".toList,
    "        (( CURRENT += 1 ))".toList,
    between "        curcontext=\"${curcontext%:*:*}:" (o.key ['-']) "-command-$line[1]:\"",
    "        case $line[1] in".toList]
    ++ cases
    ++ ["        esac".toList, "    ;;".toList, "esac".toList]

/-- The cases of topics, the first of them set in from the margin. -/
def cases (body : Topic → List Text) : List Text :=
  let case (topic : Topic) := between "(" topic.word ")" :: body topic ++ [";;".toList]
  match Topic.all.flatMap case with
  | [] => []
  | first :: rest => between "            " first "" :: rest

/-- What is done once a topic has been named. -/
def topicBody (topic : Topic) : List Text :=
  call "" (.ofTopic topic)
    ++ if topic = .help then
      [] :: dispatch (.ofTopic .help) (cases fun topic => call "" (.ofHelpOn topic))
    else []

/-- The function that lists what can be named after a path. -/
def listingFunction (o : Outline) : List Text :=
  let opening := "    local commands; commands=(".toList
  [between "(( $+functions[" (listing o) "] )) ||", between "" (listing o) "() \x7b"]
    ++ (if o.topics.isEmpty then [opening ++ [')']]
      else opening :: o.topics.map (fun topic =>
          continued (between "\x27" (topic.word ++ ':' :: quoted topic.about) "\x27"))
        ++ ["    )".toList])
    ++ [between "    _describe -t commands \x27" (o.key [' ']) " commands\x27 commands \"$@\"",
      "\x7d".toList]

/-- The script. -/
def script : Text :=
  linesText (
    [between "#compdef " program "",
      [],
      "autoload -U is-at-least".toList,
      [],
      between "_" program "() \x7b",
      "    typeset -A opt_args".toList,
      "    typeset -a _arguments_options".toList,
      "    local ret=1".toList,
      [],
      "    if is-at-least 5.2; then".toList,
      "        _arguments_options=(-s -S -C)".toList,
      "    else".toList,
      "        _arguments_options=(-s -C)".toList,
      "    fi".toList,
      [],
      "    local context curcontext=\"$curcontext\" state line".toList]
    ++ call "    " .ofProgram
    ++ dispatch .ofProgram (cases topicBody)
    ++ ["\x7d".toList, []]
    ++ (Outline.ofProgram :: Outline.ofTopics Outline.alphabetical).flatMap listingFunction
    ++ [[],
      between "if [ \"$funcstack[1]\" = \"_" program "\" ]; then",
      between "    _" program " \"$@\"",
      "else".toList,
      between "    compdef _" program " " ++ program,
      "fi".toList])

end OperatorNames.CommandLine.Zsh
