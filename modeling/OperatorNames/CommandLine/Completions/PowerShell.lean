import OperatorNames.CommandLine.Outline

/-!
# Completion in PowerShell
-/

namespace OperatorNames.CommandLine.PowerShell

open Text

/-- A text in quotes; a quote within is written twice. -/
def quoted (t : Text) : Text :=
  between "\x27" (t.flatMap fun c => if c = '\x27' then [c, c] else [c]) "\x27"

/-- One choice: its text, its kind, and what it is for. -/
def choice (kind : String) (t about : Text) : Text :=
  "            [CompletionResult]::new(".toList
    ++ joinWith [',', ' ']
      [quoted t, quoted t, "[CompletionResultType]::".toList ++ kind.toList, quoted about]
    ++ [')']

/-- An option among the choices. -/
def optionChoice (t about : Text) : Text :=
  choice "ParameterName" t about

/-- The choices after a path. -/
def choices (o : Outline) : List Text :=
  o.options.map (fun option => optionChoice (between "--" option.name "") option.about)
    ++ (if o.hasHelp then
      [optionChoice "-h".toList aboutHelp, optionChoice "--help".toList aboutHelp] else [])
    ++ o.topics.map fun topic => choice "ParameterValue" topic.word topic.about

/-- The case of a path. -/
def pathCase (o : Outline) : List Text :=
  between "        " (quoted (o.key [';'])) " \x7b" :: choices o
    ++ ["            break".toList, "        \x7d".toList]

/-- The script. -/
def script : Text :=
  linesText (
    [[],
      "using namespace System.Management.Automation".toList,
      "using namespace System.Management.Automation.Language".toList,
      [],
      between "Register-ArgumentCompleter -Native -CommandName " (quoted program)
        " -ScriptBlock \x7b",
      "    param($wordToComplete, $commandAst, $cursorPosition)".toList,
      [],
      "    $commandElements = $commandAst.CommandElements".toList,
      "    $command = @(".toList,
      between "        " (quoted program) "",
      "        for ($i = 1; $i -lt $commandElements.Count; $i++) \x7b".toList,
      "            $element = $commandElements[$i]".toList,
      "            if ($element -isnot [StringConstantExpressionAst] -or".toList,
      "                $element.StringConstantType -ne [StringConstantType]::BareWord -or".toList,
      "                $element.Value.StartsWith(\x27-\x27) -or".toList,
      "                $element.Value -eq $wordToComplete) \x7b".toList,
      "                break".toList,
      "        \x7d".toList,
      "        $element.Value".toList,
      "    \x7d) -join \x27;\x27".toList,
      [],
      "    $completions = @(switch ($command) \x7b".toList]
    ++ Outline.all.flatMap pathCase
    ++ ["    \x7d)".toList,
      [],
      "    $completions.Where\x7b $_.CompletionText -like \"$wordToComplete*\" \x7d |".toList,
      "        Sort-Object -Property ListItemText".toList,
      "\x7d".toList])

end OperatorNames.CommandLine.PowerShell
