import OperatorNames.Text.Utf8
import OperatorNames.Transfer.Address

/-!
# Servers

What a client can tell of the servers that it may ask for documents.  A network says, for each
address, what comes back on a connection before it is closed, or why no connection comes about.  A
server keeps replies for some targets and makes a network of its own.
-/

namespace OperatorNames.Transfer

open Text

/-- What comes back for each address, or why nothing can be asked there. -/
abbrev Network := Address → Except TransferFault Bytes

/-- The network in which nobody answers. -/
def Network.none : Network :=
  fun _ => .error .refused

/-- What a server keeps for a target. -/
inductive Reply
  /-- Nothing is sent. -/
  | silence
  /-- A whole response as it goes over the connection. -/
  | wire (sent : Bytes)
  /-- A document with its status and headers; `measured` tells whether its length is sent too. -/
  | page (status : Nat) (headers : List (Text × Text)) (body : Bytes) (measured : Bool)

/-- A header as a line. -/
def headerLine (name value : Text) : Bytes :=
  Utf8.encode (name ++ [':', ' '] ++ value ++ ['\r', '\n'])

/-- What goes over the connection for a reply. -/
def Reply.sent : Reply → Bytes
  | .silence => []
  | .wire sent => sent
  | .page status headers body measured =>
    let length := if measured then headerLine "Content-Length".toList (decimal body.length) else []
    Utf8.encode ("HTTP/1.1 ".toList ++ decimal status ++ " X\r\n".toList)
      ++ headers.flatMap (fun (name, value) => headerLine name value)
      ++ length ++ headerLine "Connection".toList "close".toList ++ [0x0D, 0x0A] ++ body

/-- What is sent for a target that a server keeps nothing for. -/
def Reply.missing : Reply :=
  .page 404 [] (Utf8.encode "no route".toList) true

/-- A server that connections cannot be secured with. -/
structure Server where
  /-- The name under which it is reached, in lower case. -/
  host : Text
  /-- The port that it listens on. -/
  port : Nat
  /-- What it keeps for targets. -/
  replies : List (Text × Reply)

namespace Server

/-- What a server sends for a target. -/
def respond (server : Server) (target : Text) : Bytes :=
  ((server.replies.lookup target).getD .missing).sent

/-- The network in which nobody but a server answers. -/
def network (server : Server) : Network := fun a =>
  if server.host ≠ a.host || server.port ≠ a.port then .error .refused
  else if a.scheme = .https then .error .insecure
  else .ok (server.respond a.target)

end Server

end OperatorNames.Transfer
