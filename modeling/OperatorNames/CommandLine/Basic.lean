import OperatorNames.Operator

/-!
# Commands

What the program can be asked to do, and how each request is written as arguments.
-/

namespace OperatorNames

open Text

/-- The shells that completion scripts are written for. -/
inductive Shell
  | bash
  | elvish
  | fish
  | powershell
  | zsh
  deriving DecidableEq

namespace Shell

/-- A shell's name. -/
def name : Shell → Text
  | .bash => "bash".toList
  | .elvish => "elvish".toList
  | .fish => "fish".toList
  | .powershell => "powershell".toList
  | .zsh => "zsh".toList

/-- All shells, in alphabetical order. -/
def all : List Shell :=
  [.bash, .elvish, .fish, .powershell, .zsh]

/-- The shell of a name. -/
def ofName? (t : Text) : Option Shell :=
  all.find? fun shell => shell.name = t

end Shell

/-- What a command is about. -/
inductive Topic
  /-- The names of the operators. -/
  | names
  /-- The tokens and names of the operators. -/
  | pairs
  /-- The digest of the document. -/
  | digest
  /-- The completion script of a shell. -/
  | completions
  /-- The manual page. -/
  | man
  /-- Help on the program and its commands. -/
  | help
  deriving DecidableEq

namespace Topic

/-- The word that asks for a topic. -/
def word : Topic → Text
  | .names => "names".toList
  | .pairs => "pairs".toList
  | .digest => "digest".toList
  | .completions => "completions".toList
  | .man => "man".toList
  | .help => "help".toList

/-- All topics, in the order in which they are listed. -/
def all : List Topic :=
  [.names, .pairs, .digest, .completions, .man, .help]

/-- The topic of a word. -/
def ofWord? (t : Text) : Option Topic :=
  all.find? fun topic => topic.word = t

end Topic

/-- The options that take a value. -/
inductive ValueOption
  /-- The address of a document. -/
  | url
  /-- The path of a document. -/
  | file
  deriving DecidableEq

namespace ValueOption

/-- The name of an option. -/
def name : ValueOption → Text
  | .url => "url".toList
  | .file => "file".toList

end ValueOption

/-- The options that a topic has, in the order in which they are listed. -/
def Topic.options : Topic → List ValueOption
  | .names | .pairs => [.url, .file]
  | .digest => [.url]
  | .completions | .man | .help => []

/-- What the program is asked to do. -/
inductive Command
  /-- To write the operators of a document in a style. -/
  | operators (style : Style) (url file : Option Text)
  /-- To write the digest of a document. -/
  | digest (url : Option Text)
  /-- To write a completion script. -/
  | completions (shell : Shell)
  /-- To write the manual page. -/
  | manual
  deriving DecidableEq

/-- What is done when nothing is asked for. -/
def Command.usual : Command :=
  .operators .listEntry none none

/-- An option and its value as one argument. -/
def ValueOption.argument (option : ValueOption) (value : Text) : Text :=
  ['-', '-'] ++ option.name ++ '=' :: value

/-- The arguments that ask for a command. -/
def Command.arguments : Command → List Text
  | .operators style url file =>
    let topic := match style with
      | .listEntry => Topic.names
      | .pair => Topic.pairs
    topic.word :: (url.map (ValueOption.url.argument ·)).toList
      ++ (file.map (ValueOption.file.argument ·)).toList
  | .digest url => Topic.digest.word :: (url.map (ValueOption.url.argument ·)).toList
  | .completions shell => [Topic.completions.word, shell.name]
  | .manual => [Topic.man.word]

end OperatorNames
