import OperatorNames.Url.Host

/-!
# Addresses of documents

The parts of an address that documents are fetched from, and the one way in which it is written.
-/

namespace OperatorNames

open Text

/-- The schemes that documents are fetched with. -/
inductive Scheme
  | http
  | https
  deriving DecidableEq

/-- A scheme's name. -/
def Scheme.name : Scheme → Text
  | .http => ['h', 't', 't', 'p']
  | .https => ['h', 't', 't', 'p', 's']

/-- The port that a scheme stands for. -/
def Scheme.port : Scheme → Nat
  | .http => 80
  | .https => 443

/-- An address. -/
structure Url where
  /-- How the document is fetched. -/
  scheme : Scheme
  /-- The user's name, with characters encoded; empty if there is none. -/
  username : Text := []
  /-- The user's password, with characters encoded; it is not empty. -/
  password : Option Text := none
  /-- Where the document is fetched from. -/
  host : Host
  /-- The port, unless it is the one that the scheme stands for. -/
  port : Option Nat := none
  /-- The steps of the path, with characters encoded; there is at least one. -/
  path : List Text
  /-- What follows the question mark, with characters encoded. -/
  query : Option Text := none
  /-- What follows the number sign, with characters encoded. -/
  fragment : Option Text := none
  deriving DecidableEq

namespace Url

/-- The path, from its first slash on. -/
def pathText (u : Url) : Text :=
  u.path.flatMap ('/' :: ·)

/-- The user's name and password as they stand before the host. -/
def credentials (u : Url) : Text :=
  match u.password with
  | some password => u.username ++ ':' :: password ++ ['@']
  | none => if u.username.isEmpty then [] else u.username ++ ['@']

/-- A part with the sign that announces it, if the part is there. -/
def announced (sign : Char) : Option Text → Text
  | some part => sign :: part
  | none => []

/-- The host and the port. -/
def authority (u : Url) : Text :=
  u.host.write ++ announced ':' (u.port.map decimal)

/-- What a request for the document names: the path and the query. -/
def target (u : Url) : Text :=
  u.pathText ++ announced '?' u.query

/-- An address in writing. -/
def write (u : Url) : Text :=
  u.scheme.name ++ [':', '/', '/'] ++ u.credentials ++ u.authority ++ u.target
    ++ announced '#' u.fragment

end Url

end OperatorNames
