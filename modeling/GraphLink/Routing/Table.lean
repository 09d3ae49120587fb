import GraphLink.Address.Basic
import GraphLink.Duration

/-! # Routing tables — who routes, reads and writes

    A router answers with the servers of a cluster by role (`RoutingInfo`).  The routers that a
    pool knows form a `RoutingTable`: each address once, in the order of first mention. -/

namespace GraphLink

/-- What a server of a cluster is for. -/
inductive ServerRole where
  | route
  | write
  | read
  deriving DecidableEq, Repr

namespace ServerRole

/-- The name of a role. -/
def name : ServerRole → String
  | .route => "ROUTE"
  | .write => "WRITE"
  | .read => "READ"

/-- The role with a name, in any mix of ASCII letter cases. -/
def ofName? (s : String) : Option ServerRole :=
  [route, write, read].find? (fun r => r.name.toList == s.toList.map Char.toUpper)

end ServerRole

/-- What a router knows about a cluster. -/
structure RoutingInfo where
  /-- Servers by role. -/
  servers : List (ServerRole × List Address)
  /-- How long this holds. -/
  ttl : Duration
  /-- The database that it is about, by the name that the server has for it. -/
  database : Option String
  deriving DecidableEq

/-- The routers that a pool knows. -/
structure RoutingTable where
  routers : List Address
  deriving DecidableEq, Repr

namespace RoutingTable

/-- Appends an address unless it is there. -/
def addRouter (routers : List Address) (a : Address) : List Address :=
  if a ∈ routers then routers else routers ++ [a]

/-- The table of a sequence of addresses: each once, in the order of first mention. -/
def ofList (addresses : List Address) : RoutingTable :=
  ⟨addresses.foldl addRouter []⟩

end RoutingTable
end GraphLink
