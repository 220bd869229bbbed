import OperatorNames.Config.Basic
import OperatorNames.Text.Utf8
import OperatorNames.Toml.Document

/-!
# A configuration as a TOML document

`Config.toToml` writes a configuration and `Config.ofToml` reads one.  A reader's complaint about a
value points at the place in the document; which of several complaints is made is settled by the
order of the document, and absent keys are complained about only when every key present is right.
-/

namespace OperatorNames

open Text

namespace Config

/-- The keys of a configuration. -/
inductive Field
  | sourceUrl
  | skipLines
  | connectTimeout
  | timeout
  | maxRedirects
  deriving DecidableEq

namespace Field

/-- A field's key in a document. -/
def key : Field → Text
  | .sourceUrl => "source_url".toList
  | .skipLines => "skip_lines".toList
  | .connectTimeout => "connect_timeout_secs".toList
  | .timeout => "timeout_secs".toList
  | .maxRedirects => "max_redirections".toList

/-- All fields, in the order in which they are written. -/
def all : List Field :=
  [.sourceUrl, .skipLines, .connectTimeout, .timeout, .maxRedirects]

/-- The field of a key. -/
def ofKey? (name : Text) : Option Field :=
  all.find? fun field => field.key = name

/-- What a field's value has to be, in words. -/
def expected : Field → String
  | .sourceUrl => "a string"
  | .skipLines => "usize"
  | .connectTimeout => "u64"
  | .timeout => "u64"
  | .maxRedirects => "u32"

/-- The number that a field's value has to stay below; `none` when the field is no number. -/
def bound : Field → Option Nat
  | .sourceUrl => none
  | .maxRedirects => some 0x100000000
  | _ => some 0x10000000000000000

end Field

/-- What is wrong with a well-formed document. -/
inductive Complaint
  /-- A value is of the wrong type. -/
  | wrongType (field : Field) (found : Toml.Node)
  /-- A number is out of range. -/
  | outOfRange (field : Field) (found : Int)
  /-- A key that has to be there is absent. -/
  | missing (field : Field)

/-- Why a document is no configuration. -/
inductive ReadProblem
  /-- The document is not well-formed TOML. -/
  | malformed
  /-- The document is well formed, but a part of it does not fit. -/
  | unsuitable (document : Text) (place : Toml.Extent) (complaint : Complaint)

/-- What is wrong with the value of a field, if anything is. -/
def Field.complaint? (field : Field) (node : Toml.Node) : Option Complaint :=
  match field.bound, node with
  | none, .scalar (.string _) _ => none
  | some bound, .scalar (.integer n) _ =>
    if 0 ≤ n ∧ n < bound then none else some (.outOfRange field n)
  | _, _ => some (.wrongType field node)

/-- The first complaint about the values of a document, with its place. -/
def firstComplaint? (entries : Toml.Entries) : Option (Toml.Extent × Complaint) :=
  entries.findSome? fun (name, node) =>
    (Field.ofKey? name).bind fun field =>
      (field.complaint? node).map fun complaint => (node.extent, complaint)

/-- The string that a field holds. -/
def string? (entries : Toml.Entries) (field : Field) : Option Text :=
  match entries.lookup field.key with
  | some (.scalar (.string t) _) => some t
  | _ => none

/-- The number that a field holds. -/
def number? (entries : Toml.Entries) (field : Field) : Option Nat :=
  match entries.lookup field.key with
  | some (.scalar (.integer n) _) => some n.toNat
  | _ => none

/-- The configuration that a document's own table holds. -/
def ofDocument (document : Toml.Document) : Except (Toml.Extent × Complaint) Config :=
  match firstComplaint? document.entries with
  | some complaint => .error complaint
  | none =>
    match string? document.entries .sourceUrl with
    | none => .error (document.extent, .missing .sourceUrl)
    | some sourceUrl =>
      match number? document.entries .skipLines with
      | none => .error (document.extent, .missing .skipLines)
      | some skipLines =>
        .ok {
          sourceUrl
          skipLines := .ofNat skipLines
          connectTimeout := (number? document.entries .connectTimeout).map .ofNat
          timeout := (number? document.entries .timeout).map .ofNat
          maxRedirects := ((number? document.entries .maxRedirects).map .ofNat).getD
            standard.maxRedirects }

/-- Reads a configuration. -/
def ofToml (t : Text) : Except ReadProblem Config :=
  match Toml.Document.read? t with
  | none => .error .malformed
  | some document =>
    match ofDocument document with
    | .error (place, complaint) => .error (.unsuitable t place complaint)
    | .ok config => .ok config

/-- A value of a document in words. -/
def found : Toml.Node → Text
  | .scalar (.string t) _ => "string ".toList ++ quote t
  | .scalar (.integer n) _ => "integer `".toList ++ (toString n).toList ++ ['`']
  | .scalar (.float x) _ => "floating point `".toList ++ x.written ++ ['`']
  | .scalar (.boolean b) _ => "boolean `".toList ++ (toString b).toList ++ ['`']
  | .array _ _ => "sequence".toList
  | .tables _ => "sequence".toList
  | _ => "map".toList

/-- A complaint in words. -/
def Complaint.message : Complaint → Text
  | .wrongType field node =>
    "invalid type: ".toList ++ found node ++ ", expected ".toList ++ field.expected.toList
  | .outOfRange field n =>
    "invalid value: integer `".toList ++ (toString n).toList ++ "`, expected ".toList
      ++ field.expected.toList
  | .missing field => "missing field `".toList ++ field.key ++ ['`']

/-- A problem in words.  A complaint is shown below the line it is about, with carets under the part
of that line that it is about. -/
def ReadProblem.message : ReadProblem → Text
  | .malformed => "TOML parse error".toList
  | .unsuitable document place complaint =>
    let before := document.take (document.length - place.opening.length)
    let stretch := place.opening.take (place.opening.length - place.closing.length)
    let line := decimal (before.count '\n' + 1)
    let onLine := (before.reverse.takeWhile (· ≠ '\n')).reverse
    let shown := onLine ++ place.opening.takeWhile (· ≠ '\n')
    let carets := max 1 (min (Utf8.size stretch) (Utf8.size shown - onLine.length))
    let gutter := List.replicate (line.length + 1) ' ' ++ ['|']
    "TOML parse error at line ".toList ++ line ++ ", column ".toList
      ++ decimal (onLine.length + 1) ++ ['\n']
      ++ gutter ++ ['\n']
      ++ line ++ " | ".toList ++ shown ++ ['\n']
      ++ gutter ++ List.replicate (onLine.length + 1) ' ' ++ List.replicate carets '^' ++ ['\n']
      ++ complaint.message ++ ['\n']

/-- Why a configuration cannot be written. -/
inductive WriteProblem
  /-- A number is greater than a document can hold. -/
  | tooLarge
  deriving DecidableEq

/-- A problem in words. -/
def WriteProblem.message : WriteProblem → String
  | .tooLarge => "out-of-range value for u64 type"

/-- A number as a document holds it; numbers of documents have 63 bits and a sign. -/
def writeNumber (n : Nat) : Except WriteProblem Text :=
  if n < Toml.Number.bound then .ok (decimal n) else .error .tooLarge

/-- A line that gives a field its value. -/
def line (field : Field) (value : Text) : Text :=
  field.key ++ [' ', '=', ' '] ++ value ++ ['\n']

/-- The line of a number that may be absent. -/
def optionalLine (field : Field) : Option UInt64 → Except WriteProblem Text
  | none => .ok []
  | some n => (writeNumber n.toNat).map (line field)

/-- Writes a configuration; absent numbers of seconds are left out. -/
def toToml (c : Config) : Except WriteProblem Text := do
  let skipLines ← writeNumber c.skipLines.toNat
  let connectTimeout ← optionalLine .connectTimeout c.connectTimeout
  let timeout ← optionalLine .timeout c.timeout
  return line .sourceUrl (Toml.Quoted.write c.sourceUrl) ++ line .skipLines skipLines
    ++ connectTimeout ++ timeout ++ line .maxRedirects (decimal c.maxRedirects.toNat)

end Config

end OperatorNames
