/-! # Why a text is not a URI -/

namespace GraphLink.Uri

/-- Why a text is not a URI. -/
inductive Fault where
  /-- It does not begin with a scheme and a colon. -/
  | noScheme
  /-- A host is missing where there must be one. -/
  | emptyHost
  /-- The host of a web scheme is not a domain name. -/
  | badDomainName
  /-- The port is not a number of sixteen bits. -/
  | badPort
  /-- The host ends in a number and is not an IPv4 address. -/
  | badIpv4
  /-- The host is bracketed and is not an IPv6 address. -/
  | badIpv6
  /-- The host holds a character that no host may hold. -/
  | badHostCharacter
  deriving DecidableEq, Repr

/-- The text of a fault. -/
def Fault.message : Fault → String
  | .noScheme => "relative URL without a base"
  | .emptyHost => "empty host"
  | .badDomainName => "invalid international domain name"
  | .badPort => "invalid port number"
  | .badIpv4 => "invalid IPv4 address"
  | .badIpv6 => "invalid IPv6 address"
  | .badHostCharacter => "invalid domain character"

end GraphLink.Uri
