import OperatorNames.CommandLine.Basic

/-!
# Reading the command line

Arguments are read from left to right.  The value of an option may be the argument after it; whether
it has one, whether the option was given before and whether the value will do is settled when the
next option comes, when help is asked for, or at the end.
-/

namespace OperatorNames.CommandLine

/-- What is wrong with arguments. -/
inductive Misuse
  /-- An argument that means nothing. -/
  | unknownArgument
  /-- A word in the place of a command that is no command. -/
  | unknownCommand
  /-- A value that will not do, or an option without its value. -/
  | badValue
  /-- An option given twice, or two options that exclude each other. -/
  | conflict
  /-- An argument that has to be given is not. -/
  | missingArgument
  /-- A value for an option that takes none. -/
  | needlessValue
  deriving DecidableEq

/-- What arguments come to. -/
inductive Request
  /-- A command; `explicit` tells whether it was named. -/
  | command (command : Command) (explicit : Bool)
  /-- Help on a topic, or on the program as a whole. -/
  | help (topic : Option Topic)
  deriving DecidableEq

/-- What reading stops with before the arguments are at their end. -/
inductive Stop
  /-- Help is asked for. -/
  | help
  /-- Something is wrong. -/
  | misuse (misuse : Misuse)
  deriving DecidableEq

/-- An argument by its form. -/
inductive Form
  /-- Two hyphens alone: all that follows is no option. -/
  | separator
  /-- An option by its name, perhaps with a value. -/
  | long (name : Text) (value : Option Text)
  /-- Options by letters; only the first one matters. -/
  | short (letter : Char)
  /-- Everything else. -/
  | word (t : Text)

/-- The form of an argument. -/
def Form.of : Text → Form
  | ['-', '-'] => .separator
  | '-' :: '-' :: rest =>
    let name := rest.takeWhile (· ≠ '=')
    match rest.dropWhile (· ≠ '=') with
    | [] => .long name none
    | _ :: value => .long name (some value)
  | '-' :: letter :: _ => .short letter
  | t => .word t

/-- How far the arguments of a command have been read. -/
structure Progress where
  /-- The options settled, with their values. -/
  given : List (ValueOption × Text) := []
  /-- An option that is not settled yet, and its value if it has come. -/
  pending : Option (ValueOption × Option Text) := none
  /-- The name of a shell. -/
  shell : Option Text := none
  /-- Whether the separator has come. -/
  separated : Bool := false

namespace Progress

/-- Settles an option with a value. -/
def settle (p : Progress) (option : ValueOption) (value : Text) : Except Stop Progress :=
  if (p.given.lookup option).isSome then .error (.misuse .conflict)
  else if option = .file && value.isEmpty then .error (.misuse .badValue)
  else .ok { p with given := p.given ++ [(option, value)], pending := none }

/-- Settles what is not settled. -/
def settleAll (p : Progress) : Except Stop Progress :=
  match p.pending with
  | none =>
    if p.shell.all fun name => (Shell.ofName? name).isSome then .ok p
    else .error (.misuse .badValue)
  | some (_, none) => .error (.misuse .badValue)
  | some (option, some value) => p.settle option value

/-- Takes a word that is no option. -/
def takeWord (topic : Topic) (p : Progress) (t : Text) : Except Stop Progress :=
  match p.pending, p.separated with
  | some (option, none), false => .ok { p with pending := some (option, some t) }
  | _, _ =>
    if topic = .completions && p.shell.isNone then .ok { p with shell := some t }
    else .error (.misuse .unknownArgument)

/-- Asks for help, after all else has been settled. -/
def askHelp (p : Progress) : Except Stop Progress :=
  match p.settleAll with
  | .ok _ => .error .help
  | .error stop => .error stop

/-- Takes an option of a topic. -/
def takeOption (topic : Topic) (p : Progress) (name : Text) (value : Option Text) :
    Except Stop Progress :=
  if name = Topic.help.word then
    if value.isSome then .error (.misuse .needlessValue) else p.askHelp
  else match topic.options.find? fun option => option.name = name with
    | none => .error (.misuse .unknownArgument)
    | some option =>
      match p.settleAll with
      | .error stop => .error stop
      | .ok p =>
        match value with
        | some value => p.settle option value
        | none => .ok { p with pending := some (option, none) }

/-- Takes one argument of a topic. -/
def take (topic : Topic) (p : Progress) (argument : Text) : Except Stop Progress :=
  if p.separated then p.takeWord topic argument
  else match Form.of argument with
    | .separator => .ok { p with separated := true }
    | .long name value => p.takeOption topic name value
    | .short letter => if letter = 'h' then p.askHelp else .error (.misuse .unknownArgument)
    | .word t => p.takeWord topic t

/-- The command that has been read, at the end of its arguments. -/
def command (topic : Topic) (p : Progress) : Except Stop Command :=
  match p.settleAll with
  | .error stop => .error stop
  | .ok p =>
    let url := p.given.lookup .url
    let file := p.given.lookup .file
    let operators (style : Style) : Except Stop Command :=
      if url.isSome && file.isSome then .error (.misuse .conflict)
      else .ok (.operators style url file)
    match topic with
    | .names => operators .listEntry
    | .pairs => operators .pair
    | .digest => .ok (.digest url)
    | .completions =>
      match p.shell.bind Shell.ofName? with
      | some shell => .ok (.completions shell)
      | none => .error (.misuse .missingArgument)
    | .man | .help => .ok .manual

end Progress

/-- Reads the arguments of a topic. -/
def readTopic (topic : Topic) (arguments : List Text) : Except Misuse Request :=
  match (arguments.foldlM (Progress.take topic) {}).bind (Progress.command topic) with
  | .ok command => .ok (.command command true)
  | .error .help => .ok (.help (some topic))
  | .error (.misuse misuse) => .error misuse

/-- Reads the words after the command that asks for help: a topic, or nothing. -/
def readHelp : List Text → Except Misuse Request
  | [] => .ok (.help none)
  | [word] =>
    match Topic.ofWord? word with
    | some topic => .ok (.help (some topic))
    | none => .error .unknownCommand
  | _ => .error .unknownCommand

/-- Reads arguments after the separator, where no command can be named any more. -/
def readSeparated : List Text → Except Misuse Request
  | [] => .ok (.command .usual false)
  | word :: _ =>
    .error (if (Topic.ofWord? word).isSome then .unknownArgument else .unknownCommand)

/-- Reads the arguments of the program, without its own name. -/
def read : List Text → Except Misuse Request
  | [] => .ok (.command .usual false)
  | first :: rest =>
    match Topic.ofWord? first with
    | some .help => readHelp rest
    | some topic => readTopic topic rest
    | none =>
      match Form.of first with
      | .separator => readSeparated rest
      | .long name value =>
        if name = Topic.help.word then
          if value.isSome then .error .needlessValue else .ok (.help none)
        else .error .unknownArgument
      | .short letter => if letter = 'h' then .ok (.help none) else .error .unknownArgument
      | .word _ => .error .unknownCommand

end OperatorNames.CommandLine
