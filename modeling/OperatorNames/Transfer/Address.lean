import OperatorNames.Transfer.Fault
import OperatorNames.Url.Read

/-!
# Where a request goes

An address of the transfer is what is left of a URL once it is about to be requested: the server and
the target to ask it for.  A redirection gives the next address, in full or as a change to the one
before.
-/

namespace OperatorNames.Transfer

open Text

/-- Where a request goes. -/
structure Address where
  /-- How the server is talked to. -/
  scheme : Scheme
  /-- The server's name, in lower case. -/
  host : Text
  /-- The server's port. -/
  port : Nat
  /-- The path, from its first slash on. -/
  path : Text
  /-- What follows the question mark; it is not empty. -/
  query : Option Text := none
  deriving DecidableEq

namespace Address

/-- What the server is asked for. -/
def target (a : Address) : Text :=
  a.path ++ Url.announced '?' a.query

/-- The line that opens the request for an address. -/
def requestLine (a : Address) : Text :=
  "GET ".toList ++ a.target ++ " HTTP/1.1".toList

/-- Whether a character is one that no server's name has. -/
def isBadInHost (c : Char) : Bool :=
  (" \r\n\t/:#?!@\x7b\x7d[]\\$'\"^`*<>=;,+&()%".toList).contains c

/-- Whether a server's name can be looked up. -/
def isHost : Text → Bool
  | [] => false
  | '[' :: inner => inner.getLast? = some ']' && (Ipv6.read? inner.dropLast).isSome
  | t => !t.any isBadInHost

/-- Whether credentials hold an encoded NUL, which no request can carry. -/
def hidesNul : Text → Bool
  | [] => false
  | c :: rest => (c :: rest).take 3 = ['%', '0', '0'] || hidesNul rest

/-- The address of a URL. -/
def ofUrl (u : Url) : Except TransferFault Address :=
  if isHost u.host.write && !hidesNul u.credentials then
    .ok {
      scheme := u.scheme
      host := u.host.write
      port := u.port.getD u.scheme.port
      path := u.pathText
      query := u.query.filter fun query => !query.isEmpty }
  else .error .malformedAddress

/-- A part of a redirection as it is requested: controls and octets beyond ASCII are encoded, and a
space is encoded in a path and a plus sign in a query. -/
def encodePart (inQuery : Bool) (t : Text) : Text :=
  t.flatMap fun c =>
    if c = ' ' then (if inQuery then ['+'] else "%20".toList)
    else if c.toNat < 0x20 || 0x7F ≤ c.toNat then Percent.encodeOctet c.toNat.toUInt8
    else [c]

/-- Walks the steps of a path.  Where the last step is no step of its own, an empty one stands for
it; `done` holds the steps in reverse. -/
def walk (done : List Text) : List Text → List Text
  | [] => done.reverse
  | [step] =>
    if Url.isBack step then ([] :: done.drop 1).reverse
    else if Url.isHere step then ([] :: done).reverse
    else (step :: done).reverse
  | step :: more =>
    walk (if Url.isBack step then done.drop 1 else if Url.isHere step then done else step :: done)
      more

/-- A path with the steps walked that lead nowhere or back. -/
def walked (path : Text) : Text :=
  (walk [] (cutAt (· = '/') (path.drop 1))).flatMap ('/' :: ·)

/-- The address with another path and query; `t` holds both, and what follows a number sign in it
does not count. -/
def withTarget (a : Address) (t : Text) : Address :=
  let asked := t.takeWhile (· ≠ '#')
  let path := encodePart false (asked.takeWhile (· ≠ '?'))
  let query := (asked.dropWhile (· ≠ '?')).drop 1
  { a with
    path := if path.isEmpty then ['/'] else walked path
    query := if query.isEmpty then none else some (encodePart true query) }

/-- The directory of the path: the path up to its last slash. -/
def directory (a : Address) : Text :=
  (a.path.reverse.dropWhile (· ≠ '/')).reverse

/-- Whether a character ends the part of an address that names the server. -/
def endsServer (c : Char) : Bool :=
  c = '/' || c = '?' || c = '#'

/-- The address that a text gives from the name of the server on. -/
def ofServer (scheme : Scheme) (t : Text) : Except TransferFault Address :=
  let (user, place) := Url.cutCredentials (t.takeWhile fun c => !endsServer c)
  let (host, portText) := Url.cutHost false place
  match Url.readPort portText with
  | .error _ => .error .malformedAddress
  | .ok port =>
    if isHost host && !hidesNul (user.getD []) && !t.any (fun c => c.toNat < 0x20 || c.toNat = 0x7F)
    then
      let address : Address :=
        { scheme, host := host.map lowerAscii, port := port.getD scheme.port, path := ['/'] }
      .ok (address.withTarget (t.dropWhile fun c => !endsServer c))
    else .error .malformedAddress

/-- The address that a text in full gives, after its scheme. -/
def ofFull (scheme rest : Text) : Except TransferFault Address :=
  let slashes := (rest.takeWhile (· = '/')).length
  let named? := [Scheme.http, Scheme.https].find? fun s => s.name = scheme
  match named? with
  | none => .error .unsupportedScheme
  | some scheme =>
    if 1 ≤ slashes ∧ slashes ≤ 3 then ofServer scheme (rest.drop slashes)
    else .error .malformedAddress

/-- Where a redirection from an address leads. -/
def follow (a : Address) (location : Text) : Except TransferFault Address :=
  match Url.scheme? location with
  | some (scheme, rest) => ofFull scheme rest
  | none =>
    match location with
    | '/' :: '/' :: rest => ofServer a.scheme rest
    | '/' :: rest => .ok (a.withTarget ('/' :: rest))
    | '#' :: _ => .ok a
    | '?' :: rest => .ok (a.withTarget (a.path ++ '?' :: rest))
    | rest => .ok (a.withTarget (a.directory ++ rest))

end Address

end OperatorNames.Transfer
