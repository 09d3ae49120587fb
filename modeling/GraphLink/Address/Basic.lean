import GraphLink.Error
import GraphLink.Text.Numeral
import GraphLink.Text.Quoted

/-! # Addresses — a host and a port

    An address is written `host:port`; a host that holds a colon stands between square brackets,
    so that the port can still be told from it.  Addresses are ordered by host, then by port. -/

namespace GraphLink

/-- Where a server listens. -/
structure Address where
  host : String
  port : UInt16
  deriving DecidableEq, Repr, Inhabited

namespace Address

/-- The host when a target names none. -/
def defaultHost : String := "localhost"

/-- The port when a target names none, or port zero. -/
def defaultPort : UInt16 := 7687

/-- Whether the host holds a colon, as the text of an IPv6 address does. -/
def isIPv6 (a : Address) : Bool :=
  a.host.toList.contains ':'

/-- The digits of a port. -/
def portText (p : UInt16) : List Char :=
  Text.decimal p.toNat

/-- The characters of an address in writing. -/
def render (a : Address) : List Char :=
  if a.isIPv6 then '[' :: a.host.toList ++ ']' :: ':' :: portText a.port
  else a.host.toList ++ ':' :: portText a.port

/-- An address in writing. -/
def text (a : Address) : String :=
  String.ofList a.render

/-- Addresses in writing, one after the other. -/
def listText (as : List Address) : String :=
  " ".intercalate (as.map text)

/-- The parts of an address by name, as diagnostics show them. -/
def describe (a : Address) : String :=
  "ServerAddress \x7b host: " ++ Text.quoted a.host ++ ", port: "
    ++ String.ofList (portText a.port) ++ " \x7d"

/-- The order of addresses: by host, and by port where the hosts are equal. -/
def le (a b : Address) : Bool :=
  decide (a.host < b.host) || (a.host == b.host && decide (a.port ≤ b.port))

/-- Addresses in ascending order. -/
def sort (as : List Address) : List Address :=
  as.mergeSort le

end Address
end GraphLink
