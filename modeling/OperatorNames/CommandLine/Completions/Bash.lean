import OperatorNames.CommandLine.Outline

/-!
# Completion in Bash
-/

namespace OperatorNames.CommandLine.Bash

open Text

/-- The text between the words of a path. -/
def joint : Text := "__subcmd__".toList

/-- The branch that goes on from a path by one more word. -/
def branch (o : Outline) (topic : Topic) : List Text :=
  [between "            " (o.key joint) "," ++ topic.word ++ [')'],
    between "                cmd=\"" (o.key joint ++ joint ++ topic.word) "\"",
    "                ;;".toList]

/-- The branches of all paths, those of the shorter paths first. -/
def branches : List Text :=
  Outline.alphabetical.flatMap (branch .ofProgram)
    ++ Outline.alphabetical.flatMap (branch (.ofTopic .help))

/-- The options and words that can follow a path. -/
def choices (o : Outline) : List Text :=
  (if o.hasHelp then ["-h".toList] else [])
    ++ o.options.map (fun option => between "--" option.name "")
    ++ (if o.hasHelp then ["--help".toList] else []) ++ o.words

/-- The line that offers the options. -/
def offer (indent : String) : Text :=
  indent.toList ++ "COMPREPLY=( $(compgen -W \"${opts}\" -- \"${cur}\") )".toList

/-- What is offered for the value of an option. -/
def valueOffer (option : ValueOption) : List Text :=
  [between "                --" option.name ")",
    "                    COMPREPLY=($(compgen -f \"${cur}\"))".toList,
    "                    return 0".toList,
    "                    ;;".toList]

/-- What is offered after a path. -/
def offers (o : Outline) : List Text :=
  [between "        " (o.key joint) ")",
    between "            opts=\"" (joinWith [' '] (choices o)) "\"",
    between "            if [[ ${cur} == -* || ${COMP_CWORD} -eq " (decimal (o.path.length + 1))
      " ]] ; then",
    offer "                ",
    "                return 0".toList,
    "            fi".toList,
    "            case \"${prev}\" in".toList]
    ++ o.options.flatMap valueOffer
    ++ ["                *)".toList,
      "                    COMPREPLY=()".toList,
      "                    ;;".toList,
      "            esac".toList,
      offer "            ",
      "            return 0".toList,
      "            ;;".toList]

/-- The script. -/
def script : Text :=
  linesText (
    [between "_" program "() \x7b",
      "    local i cur prev opts cmd".toList,
      "    COMPREPLY=()".toList,
      "    if [[ \"${BASH_VERSINFO[0]}\" -ge 4 ]]; then".toList,
      "        cur=\"$2\"".toList,
      "    else".toList,
      "        cur=\"${COMP_WORDS[COMP_CWORD]}\"".toList,
      "    fi".toList,
      "    prev=\"$3\"".toList,
      "    cmd=\"\"".toList,
      "    opts=\"\"".toList,
      [],
      "    for i in \"${COMP_WORDS[@]:0:COMP_CWORD}\"".toList,
      "    do".toList,
      "        case \"${cmd},${i}\" in".toList,
      "            \",$1\")".toList,
      between "                cmd=\"" program "\"",
      "                ;;".toList]
    ++ branches
    ++ ["            *)".toList,
      "                ;;".toList,
      "        esac".toList,
      "    done".toList,
      [],
      "    case \"${cmd}\" in".toList]
    ++ (Outline.ofProgram :: Outline.ofTopics Outline.alphabetical).flatMap offers
    ++ ["    esac".toList,
      "\x7d".toList,
      [],
      "if [[ \"${BASH_VERSINFO[0]}\" -eq 4 && \"${BASH_VERSINFO[1]}\" -ge 4 ".toList
        ++ "|| \"${BASH_VERSINFO[0]}\" -gt 4 ]]; then".toList,
      between "    complete -F _" program " -o nosort -o bashdefault -o default " ++ program,
      "else".toList,
      between "    complete -F _" program " -o bashdefault -o default " ++ program,
      "fi".toList])

end OperatorNames.CommandLine.Bash
