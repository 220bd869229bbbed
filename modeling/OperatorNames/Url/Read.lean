import OperatorNames.Text.Blank
import OperatorNames.Url.Basic

/-!
# Reading an address

`Url.read` accepts what a browser's address line accepts: white space around the address, tabs and
line ends within it, backslashes for slashes, any number of slashes after the scheme, and characters
that have to be encoded.  `Url.write` of the result is the address in its one proper form.

An address of another scheme is read only as far as it can be wrong; after that it is refused for
its scheme.
-/

namespace OperatorNames.Url

open Text

/-- An address without blanks and control characters at its ends and without tabs and line ends. -/
def clean (t : Text) : Text :=
  (stripEnds (·.toNat ≤ 0x20) t).filter fun c => !(c = '\t' || c = '\n' || c = '\r')

/-- Whether a character is an ASCII letter. -/
def isLetter (c : Char) : Bool :=
  ('a' ≤ c && c ≤ 'z') || ('A' ≤ c && c ≤ 'Z')

/-- Whether a character may stand in a scheme after the first one. -/
def isSchemeChar (c : Char) : Bool :=
  isLetter c || c.isDigit || c = '+' || c = '-' || c = '.'

/-- Reads a scheme and its colon. -/
def scheme? (t : Text) : Option (Text × Text) :=
  if t.head?.any isLetter then
    match t.dropWhile isSchemeChar with
    | ':' :: rest => some ((t.takeWhile isSchemeChar).map lowerAscii, rest)
    | _ => none
  else none

/-- How an address goes on after its scheme. -/
inductive Kind
  /-- A host is needed, and backslashes are slashes. -/
  | web
  /-- A host is possible; backslashes are slashes. -/
  | file
  /-- Everything else. -/
  | other
  deriving DecidableEq

/-- The kind of a scheme. -/
def kindOf (scheme : Text) : Kind :=
  if ["http", "https", "ws", "wss", "ftp"].any (·.toList = scheme) then .web
  else if scheme = ['f', 'i', 'l', 'e'] then .file
  else .other

/-- Whether a character separates the steps of a path; a backslash does where it is a slash. -/
def isSlash (backslash : Bool) (c : Char) : Bool :=
  c = '/' || (backslash && c = '\\')

/-- Whether a character ends the part of an address that names the host. -/
def endsAuthority (backslash : Bool) (c : Char) : Bool :=
  isSlash backslash c || c = '?' || c = '#'

/-- Cuts a text at the last `@` of it: what stands before, if there is one, and what follows. -/
def cutCredentials (t : Text) : Option Text × Text :=
  let rest := (t.reverse.takeWhile (· ≠ '@')).reverse
  if rest.length = t.length then (none, t)
  else (some (t.take (t.length - rest.length - 1)), rest)

/-- Cuts a text at its first colon outside brackets, which stays with what follows. -/
def cutHost (inside : Bool) : Text → Text × Text
  | [] => ([], [])
  | c :: rest =>
    if c = ':' && !inside then ([], c :: rest)
    else
      let still := if c = '[' then true else if c = ']' then false else inside
      let (host, after) := cutHost still rest
      (c :: host, after)

/-- The user's name and password, encoded.  An empty password counts as none. -/
def readCredentials (t : Text) : Text × Option Text :=
  let name := Percent.encode Percent.inCredentials (t.takeWhile (· ≠ ':'))
  match t.dropWhile (· ≠ ':') with
  | [] => (name, none)
  | [_] => (name, none)
  | _ :: password => (name, some (Percent.encode Percent.inCredentials password))

/-- Reads a port: the digits after a colon, of which there may be none. -/
def readPort : Text → Except UrlRejection (Option Nat)
  | [] => .ok none
  | _ :: digits =>
    if digits.isEmpty then .ok none
    else match number? 10 digits with
      | some n => if n < 0x10000 then .ok (some n) else .error .badPort
      | none => .error .badPort

/-- The steps that mean "here". -/
def isHere (step : Text) : Bool :=
  step.map lowerAscii = ['.'] || step.map lowerAscii = ['%', '2', 'e']

/-- The steps that mean "one step back". -/
def isBack (step : Text) : Bool :=
  ["..", ".%2e", "%2e.", "%2e%2e"].any (·.toList = step.map lowerAscii)

/-- Whether a step names a drive; such a step is never taken back. -/
def isDrive (step : Text) : Bool :=
  match step with
  | [letter, mark] => isLetter letter && (mark = ':' || mark = '|')
  | _ => false

/-- Takes the last step back; `done` holds the steps in reverse. -/
def goBack (done : List Text) : List Text :=
  match done with
  | [] => []
  | step :: before => if isDrive step then step :: before else before

/-- Walks the steps of a path.  Where the last step is no step of its own, an empty one stands for
it. -/
def walk (done : List Text) : List Text → List Text
  | [] => done.reverse
  | [step] =>
    if isBack step then ([] :: goBack done).reverse
    else if isHere step then ([] :: done).reverse
    else (step :: done).reverse
  | step :: more =>
    walk (if isBack step then goBack done else if isHere step then done else step :: done) more

/-- The steps of a path. -/
def readPath (t : Text) : List Text :=
  let steps := match t with
    | c :: rest => if isSlash true c then rest else t
    | [] => []
  walk [] ((cutAt (isSlash true) steps).map (Percent.encode Percent.inPath))

/-- Reads what follows the scheme and the slashes of an address that documents are fetched from. -/
def readWeb (scheme : Scheme) (t : Text) : Except UrlRejection Url := do
  let (user, place) := cutCredentials (t.takeWhile fun c => !endsAuthority true c)
  let (hostText, portText) := cutHost false place
  if hostText.isEmpty then throw .emptyHost
  let host ← Host.read hostText
  let port ← readPort portText
  let (username, password) := readCredentials (user.getD [])
  let rest := t.dropWhile fun c => !endsAuthority true c
  let afterPath := rest.dropWhile fun c => !(c = '?' || c = '#')
  let query := match afterPath with
    | '?' :: query => some (query.takeWhile (· ≠ '#'))
    | _ => none
  let fragment := match afterPath.dropWhile (· ≠ '#') with
    | _ :: fragment => some fragment
    | [] => none
  return {
    scheme, username, password, host
    port := if port = some scheme.port then none else port
    path := readPath (rest.takeWhile fun c => !(c = '?' || c = '#'))
    query := query.map (Percent.encode Percent.inQuery)
    fragment := fragment.map (Percent.encode Percent.inFragment) }

/-- Why the rest of an address of another scheme with a host is refused, if it is. -/
def hostRejection? (backslash : Bool) (t : Text) : Option UrlRejection :=
  let (user, place) := cutCredentials (t.takeWhile fun c => !endsAuthority backslash c)
  let rest := t.dropWhile fun c => !endsAuthority backslash c
  let (hostText, portText) := cutHost false place
  let shownUser := match user with
    | some user => readCredentials user ≠ ([], none)
    | none => false
  let bare := user = some [] && place.isEmpty && !rest.isEmpty
  let port? := match readPort (portText.takeWhile (· ≠ '\\')) with
    | .ok _ => none
    | .error reason => some reason
  if backslash then
    if hostText.isEmpty then some .emptyHost
    else match Host.read hostText with
      | .ok _ => port?
      | .error reason => some reason
  else if bare then some .emptyHost
  else match Host.opaqueRejection? hostText with
    | some reason => some reason
    | none =>
      if hostText.isEmpty && !portText.isEmpty then some .emptyHost
      else match port? with
        | some reason => some reason
        | none => if hostText.isEmpty && shownUser then some .emptyHost else none

/-- Why the rest of an address of a file is refused, if it is. -/
def fileRejection? (t : Text) : Option UrlRejection :=
  match t with
  | a :: b :: rest =>
    let host := rest.takeWhile fun c => !endsAuthority true c
    if !(isSlash true a && isSlash true b) || host.isEmpty || isDrive host then none
    else match Host.read host with
      | .ok _ => none
      | .error reason => some reason
  | _ => none

/-- Why an address of another scheme is refused before its scheme is looked at, if it is. -/
def otherRejection? (scheme t : Text) : Option UrlRejection :=
  match kindOf scheme with
  | .web => hostRejection? true (t.dropWhile (isSlash true))
  | .file => fileRejection? t
  | .other =>
    match t with
    | '/' :: '/' :: rest => hostRejection? false rest
    | _ => none

/-- Reads an address that documents can be fetched from. -/
def read (raw : Text) : Except UrlRejection Url :=
  match scheme? (clean (trim raw)) with
  | none => .error .relative
  | some (scheme, rest) =>
    if scheme = Scheme.http.name then readWeb .http (rest.dropWhile (isSlash true))
    else if scheme = Scheme.https.name then readWeb .https (rest.dropWhile (isSlash true))
    else .error ((otherRejection? scheme rest).getD (.scheme scheme))

end OperatorNames.Url
