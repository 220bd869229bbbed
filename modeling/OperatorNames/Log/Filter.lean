import OperatorNames.Text.Blank
import OperatorNames.Text.Utf8
import OperatorNames.Text.WordChar

/-!
# Which records are logged

A filter is a list of directives, each a target and the least serious level that is logged for it.
The most specific directive whose target begins the target of a record decides; a record that none
applies to is not logged.  `Filter.read?` reads directives as they are written in a variable.
-/

namespace OperatorNames.Log

open Text

/-- How serious a record is. -/
inductive Level
  | error
  | warn
  | info
  | debug
  | trace
  deriving DecidableEq

namespace Level

/-- A level's rank: the more serious, the smaller. -/
def rank : Level → Nat
  | .error => 1
  | .warn => 2
  | .info => 3
  | .debug => 4
  | .trace => 5

/-- A level as it stands in the log. -/
def name : Level → String
  | .error => "ERROR"
  | .warn => "WARN"
  | .info => "INFO"
  | .debug => "DEBUG"
  | .trace => "TRACE"

/-- All levels. -/
def all : List Level :=
  [.error, .warn, .info, .debug, .trace]

end Level

/-- Up to which rank records are logged: none at all for zero. -/
abbrev Threshold := Nat

/-- Reads a threshold: the name of a level, of whatever case, its rank, or `off`. -/
def threshold? (t : Text) : Option Threshold :=
  let digits := match t with
    | '+' :: rest => rest
    | t => t
  match number? 10 digits with
  | some n => if n ≤ 5 then some n else none
  | none =>
    let word := t.map lowerAscii
    if word = ['o', 'f', 'f'] then some 0
    else (Level.all.find? fun level => level.name.toList.map lowerAscii = word).map Level.rank

/-- Says up to which rank the records of some targets are logged. -/
structure Directive where
  /-- What the target of a record has to begin with; any target if absent. -/
  target : Option Text := none
  /-- The fields that a record has to have. -/
  fields : List Text := []
  /-- Whether the directive is about records within a span. -/
  inSpan : Bool := false
  /-- Up to which rank records are logged. -/
  threshold : Threshold := Level.trace.rank
  deriving DecidableEq

namespace Directive

/-- Reads a threshold at the end of a directive; an absent one stands for the greatest. -/
def ending? (d : Directive) (t : Text) : Option Directive :=
  if t.isEmpty then some d else (threshold? t).map fun threshold => { d with threshold }

/-- Reads the span and the fields of a directive, after the opening bracket, and its threshold.
Directives that ask for the value of a field are about spans. -/
def spanned? (d : Directive) (t : Text) : Option Directive :=
  let name := t.takeWhile fun c => !(c = ']' || c = '\x7b')
  let ending? (d : Directive) (t : Text) : Option Directive :=
    match t with
    | [] => some d
    | '=' :: rest => d.ending? rest
    | _ => none
  match t.dropWhile fun c => !(c = ']' || c = '\x7b') with
  | [] => none
  | ']' :: rest => ending? { d with inSpan := true } rest
  | _ :: rest =>
    let field := rest.takeWhile (· ≠ '\x7d')
    match rest.dropWhile (· ≠ '\x7d') with
    | '\x7d' :: ']' :: rest =>
      if field.isEmpty then none
      else
        ending? { d with
          fields := [field.takeWhile (· ≠ '=')]
          inSpan := !name.isEmpty || field.contains '=' } rest
    | _ => none

/-- Whether a directive may begin with a character. -/
def mayBegin (c : Char) : Bool :=
  isWord c || c = '-' || c = ':' || c = '['

/-- Reads a directive: a level, a target, or both.  Blanks around it belong to its words, which are
then neither a level nor the target of any record. -/
def read? (t : Text) : Option Directive :=
  let trimmed := trim t
  if !trimmed.head?.any mayBegin then none
  else
    let length := (trimmed.takeWhile fun c => !(c = '=' || c = '[')).length
    match trimmed.drop length with
    | [] =>
      match threshold? t with
      | some threshold => some { threshold }
      | none => some { target := some t }
    | '=' :: _ => ({ target := some (t.take length) } : Directive).ending? (t.drop (length + 1))
    | _ =>
      ({ target := if length = 0 then none else some (t.take length) } : Directive).spanned?
        (trimmed.drop (length + 1))

/-- Whether a directive applies to the records of a target.  Every record has a message and no other
field. -/
def appliesTo (d : Directive) (target : Text) : Bool :=
  d.target.all (·.isPrefixOf target) && d.fields.all (· = "message".toList)

/-- Whether a text comes after another in the order of code points. -/
def comesAfter : Text → Text → Bool
  | [], _ => false
  | _ :: _, [] => true
  | a :: s, b :: t => b < a || (a = b && comesAfter s t)

/-- How many octets the target has; a directive with a target has more than one without. -/
def targetSize (d : Directive) : Nat :=
  match d.target with
  | none => 0
  | some target => 1 + Utf8.size target

/-- Whether a directive is to be asked before another: the longer target goes first, then the one
with fields, then the target and the field that come later in the order of code points. -/
def goesBefore (d e : Directive) : Bool :=
  if d.targetSize ≠ e.targetSize then e.targetSize < d.targetSize
  else if d.fields.length ≠ e.fields.length then e.fields.length < d.fields.length
  else if d.target ≠ e.target then comesAfter (d.target.getD []) (e.target.getD [])
  else comesAfter d.fields.flatten e.fields.flatten

end Directive

/-- Which records are logged: directives, the one to be asked first at the front. -/
abbrev Filter := List Directive

namespace Filter

/-- Adds a directive, in the place of one for the same records if there is one. -/
def add (d : Directive) : Filter → Filter
  | [] => [d]
  | e :: rest =>
    if d.goesBefore e then d :: e :: rest
    else if e.goesBefore d then e :: add d rest
    else d :: rest

/-- The filter of directives in the order in which they were given.  There are no spans, so that
directives about spans apply to nothing; without any directive only errors are logged. -/
def ofDirectives (directives : List Directive) : Filter :=
  if directives.isEmpty then [{ threshold := Level.error.rank }]
  else (directives.filter fun d => !d.inSpan).foldl (fun filter d => add d filter) []

/-- Reads a filter: directives with commas between them. -/
def read? (t : Text) : Option Filter :=
  (((cutAt (· = ',') t).filter fun part => !part.isEmpty).mapM Directive.read?).map ofDirectives

/-- The filter that holds where none is given. -/
def standard : Filter :=
  ofDirectives [
    { threshold := Level.info.rank },
    { target := some "opname".toList, threshold := Level.debug.rank },
    { target := some "opname_core".toList, threshold := Level.debug.rank }]

/-- The filter that the value of a variable gives.  An absent or malformed value gives the standard
one. -/
def ofVariable (value : Option Text) : Filter :=
  (value.bind read?).getD standard

/-- Whether the records of a target are logged at a level. -/
def lets (filter : Filter) (target : Text) (level : Level) : Bool :=
  match filter.find? (·.appliesTo target) with
  | some d => level.rank ≤ d.threshold
  | none => false

end Filter

end OperatorNames.Log
