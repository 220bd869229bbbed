import OperatorNames.Text.Utf8
import OperatorNames.Url.Domain.Basic
import OperatorNames.Url.Ipv4
import OperatorNames.Url.Ipv6
import OperatorNames.Url.Percent
import OperatorNames.Url.Rejection

/-!
# Hosts
-/

namespace OperatorNames

open Text

/-- The host of an address. -/
inductive Host
  /-- A domain name in the form in which it is looked up. -/
  | domain (name : Text)
  /-- An IPv4 address. -/
  | ipv4 (address : Nat)
  /-- The eight pieces of an IPv6 address. -/
  | ipv6 (pieces : List Nat)
  deriving DecidableEq

namespace Host

/-- A host as it stands in an address. -/
def write : Host → Text
  | .domain name => name
  | .ipv4 address => Ipv4.write address
  | .ipv6 pieces => '[' :: Ipv6.write pieces ++ [']']

/-- Reads an IPv6 address after its opening bracket. -/
def bracketed (inner : Text) : Except UrlRejection Host :=
  if inner.getLast? = some ']' then
    match Ipv6.read? inner.dropLast with
    | some pieces => .ok (.ipv6 pieces)
    | none => .error .badIpv6
  else .error .badIpv6

/-- Reads a host that is not in brackets. -/
def named (t : Text) : Except UrlRejection Host :=
  match (Utf8.decode (Percent.decodeOctets (Utf8.encode t))).bind Domain.toAscii? with
  | none => .error .badDomain
  | some name =>
    if name.isEmpty then .error .emptyHost
    else if Ipv4.endsInNumber name then
      match Ipv4.read? name with
      | some address => .ok (.ipv4 address)
      | none => .error .badIpv4
    else .ok (.domain name)

/-- Reads the host of an address whose scheme is one of those that the web is made of. -/
def read : Text → Except UrlRejection Host
  | '[' :: inner => bracketed inner
  | t => named t

/-- Whether a character may not stand in the host of another scheme. -/
def isForbidden (c : Char) : Bool :=
  ['\x00', '\t', '\n', '\r', ' ', '#', '/', ':', '<', '>', '?', '@', '[', '\\', ']', '^',
    '|'].contains c

/-- Why the host of another scheme is refused, if it is; such a host has no form of its own. -/
def opaqueRejection? : Text → Option UrlRejection
  | '[' :: inner =>
    match bracketed inner with
    | .ok _ => none
    | .error reason => some reason
  | t => if t.any isForbidden then some .badHostCharacter else none

end Host

end OperatorNames
