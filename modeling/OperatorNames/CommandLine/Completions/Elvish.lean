import OperatorNames.CommandLine.Outline

/-!
# Completion in Elvish
-/

namespace OperatorNames.CommandLine.Elvish

open Text

/-- A text in quotes; a quote within is written twice. -/
def quoted (t : Text) : Text :=
  between "\x27" (t.flatMap fun c => if c = '\x27' then [c, c] else [c]) "\x27"

/-- One choice and what it is for. -/
def choice (t about : Text) : Text :=
  between "            cand " t " " ++ quoted about

/-- The choices after a path. -/
def choices (o : Outline) : List Text :=
  o.options.map (fun option => choice (between "--" option.name "") option.about)
    ++ (if o.hasHelp then [choice "-h".toList aboutHelp, choice "--help".toList aboutHelp] else [])
    ++ o.topics.map fun topic => choice topic.word topic.about

/-- The case of a path. -/
def pathCase (o : Outline) : List Text :=
  between "        &" (quoted (o.key [';'])) "= \x7b" :: choices o ++ ["        \x7d".toList]

/-- The script. -/
def script : Text :=
  linesText (
    [[],
      "use builtin;".toList,
      "use str;".toList,
      [],
      between "set edit:completion:arg-completer[" program "] = \x7b|@words|",
      "    fn spaces \x7b|n|".toList,
      "        builtin:repeat $n \x27 \x27 | str:join \x27\x27".toList,
      "    \x7d".toList,
      "    fn cand \x7b|text desc|".toList,
      "        edit:complex-candidate $text &display=$text\x27 \x27".toList
        ++ "(spaces (- 14 (wcswidth $text)))$desc".toList,
      "    \x7d".toList,
      between "    var command = " (quoted program) "",
      "    for word $words[1..-1] \x7b".toList,
      "        if (str:has-prefix $word \x27-\x27) \x7b".toList,
      "            break".toList,
      "        \x7d".toList,
      "        set command = $command\x27;\x27$word".toList,
      "    \x7d".toList,
      "    var completions = [".toList]
    ++ Outline.all.flatMap pathCase
    ++ ["    ]".toList, "    $completions[$command]".toList, "\x7d".toList])

end OperatorNames.CommandLine.Elvish
