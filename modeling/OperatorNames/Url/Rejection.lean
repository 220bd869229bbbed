import OperatorNames.Text.Quoted

/-!
# Why an address is refused
-/

namespace OperatorNames

/-- Why a text is no address that a document can be fetched from. -/
inductive UrlRejection
  /-- The text names no scheme. -/
  | relative
  /-- The host is missing or comes to nothing. -/
  | emptyHost
  /-- The host is no domain name, or has a character that no host may have. -/
  | badDomain
  /-- The host has a character that no opaque host may have. -/
  | badHostCharacter
  /-- The port is no number, or too great. -/
  | badPort
  /-- The host ends in a number but is no IPv4 address. -/
  | badIpv4
  /-- The host in brackets is no IPv6 address. -/
  | badIpv6
  /-- The scheme is not one that documents are fetched with. -/
  | scheme (name : Text)
  /-- A reason given in words. -/
  | stated (text : Text)
  deriving DecidableEq

/-- A reason in words. -/
def UrlRejection.message : UrlRejection → Text
  | .relative => "relative URL without a base".toList
  | .emptyHost => "empty host".toList
  | .badDomain => "invalid international domain name".toList
  | .badHostCharacter => "invalid domain character".toList
  | .badPort => "invalid port number".toList
  | .badIpv4 => "invalid IPv4 address".toList
  | .badIpv6 => "invalid IPv6 address".toList
  | .scheme name => "unsupported scheme ".toList ++ Text.quote name
  | .stated text => text

end OperatorNames
