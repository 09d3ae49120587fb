import GraphLink.Domain.Label
import GraphLink.Text.Percent
import GraphLink.Uri.Fault
import GraphLink.Uri.Ipv4
import GraphLink.Uri.Ipv6

/-! # Hosts

    A host is a name, an IPv6 address between brackets, or, under a **web scheme**, an IPv4
    address.  Under any other scheme a name is opaque: it may not hold the characters that delimit
    URIs, its controls and everything outside ASCII are percent-encoded, and nothing else about it
    changes.  Under a web scheme a name is percent-decoded and put into lower case first, and must
    be a domain name.  A label of it that holds characters outside ASCII, raw or percent-encoded, is
    left alone, neither mapped nor checked: no web scheme opens a connection, so a URI with such a
    name is refused in any case. -/

namespace GraphLink.Uri

/-- A host that is not empty. -/
inductive Host where
  | name (chars : List Char)
  | ipv6 (address : Ipv6)
  | ipv4 (address : Nat)
  deriving DecidableEq

namespace Host

/-- A host in writing. -/
def render : Host → List Char
  | .name chars => chars
  | .ipv6 address => '[' :: address.render ++ [']']
  | .ipv4 address => Ipv4.render address

/-- The characters that no name under any scheme may hold. -/
def isForbidden (c : Char) : Bool :=
  ['\x00', '\t', '\n', '\r', ' ', '#', '/', ':', '<', '>', '?', '@', '[', '\\', ']', '^',
    '|'].contains c

/-- The characters that a name under a web scheme may not hold. -/
def isForbiddenInDomain (c : Char) : Bool :=
  c.toNat ≤ 0x20 || c.toNat == 0x7F || c == '%' || c == Text.replacement || isForbidden c

/-- What stands between the brackets of a host text that begins with one. -/
def parseBracketed (cs : List Char) : Except Fault Host :=
  if cs.getLast? = some ']' then
    match Ipv6.parse cs.dropLast with
    | some address => .ok (.ipv6 address)
    | none => .error .badIpv6
  else .error .badIpv6

/-- The host of a text under a scheme that is not a web scheme; `none` for no text. -/
def parseOpaque (cs : List Char) : Except Fault (Option Host) :=
  match cs with
  | [] => .ok none
  | '[' :: rest => (parseBracketed rest).map some
  | cs =>
      if cs.any isForbidden then .error .badHostCharacter
      else .ok (some (.name (Text.Percent.encode Text.Percent.controls cs)))

/-- A percent-decoded name, its ASCII letters in lower case. -/
def domain (cs : List Char) : List Char :=
  (Text.readUtf8 (Text.Percent.decode (Text.utf8 cs))).map Char.toLower

/-- The host of a text that is not empty, under a web scheme.  What a name holds outside ASCII is
    neither mapped nor checked, see above. -/
def parseDomain (cs : List Char) : Except Fault Host :=
  match cs with
  | '[' :: rest => parseBracketed rest
  | cs =>
      let name := domain cs
      if name.any isForbiddenInDomain || !Domain.isName name then .error .badDomainName
      else if Ipv4.endsInNumber name then
        match Ipv4.parse name with
        | some address => .ok (.ipv4 address)
        | none => .error .badIpv4
      else .ok (.name name)

end Host
end GraphLink.Uri
