/-! # Connection schemes

    The scheme of a connection URI decides two things: whether a driver speaks to one server or to
    a cluster through its routers (`DriverKind`), and whether the connection is secured by the
    scheme itself (`Security`).  Two families of three schemes cover every combination. -/

namespace GraphLink

/-- Whom a driver speaks to. -/
inductive DriverKind where
  /-- One server. -/
  | direct
  /-- A cluster, through its routers. -/
  | routing
  deriving DecidableEq, Repr

/-- The name of a kind. -/
def DriverKind.name : DriverKind → String
  | .direct => "direct"
  | .routing => "routing"

/-- How far a scheme settles the security of a connection. -/
inductive Security where
  /-- Not at all: options decide. -/
  | plain
  /-- Encrypted, certificates checked against those of the system. -/
  | verified
  /-- Encrypted, every certificate accepted. -/
  | selfSigned
  deriving DecidableEq, Repr

namespace Security

/-- The name of a security mode, as diagnostics show it. -/
def name : Security → String
  | .plain => "NotSecure"
  | .verified => "Secure"
  | .selfSigned => "SelfSignedCertificate"

/-- Whether the scheme settles it. -/
def isSecure (s : Security) : Bool :=
  s != .plain

end Security

/-- A scheme of a connection URI. -/
inductive Scheme where
  | bolt
  | boltSelfSigned
  | boltSecure
  | neo4j
  | neo4jSelfSigned
  | neo4jSecure
  deriving DecidableEq, Repr

namespace Scheme

/-- Every scheme, in the order in which messages list them. -/
def all : List Scheme :=
  [bolt, boltSelfSigned, boltSecure, neo4j, neo4jSelfSigned, neo4jSecure]

/-- A scheme in writing. -/
def name : Scheme → String
  | .bolt => "bolt"
  | .boltSelfSigned => "bolt+ssc"
  | .boltSecure => "bolt+s"
  | .neo4j => "neo4j"
  | .neo4jSelfSigned => "neo4j+ssc"
  | .neo4jSecure => "neo4j+s"

def kind : Scheme → DriverKind
  | .bolt | .boltSelfSigned | .boltSecure => .direct
  | .neo4j | .neo4jSelfSigned | .neo4jSecure => .routing

def security : Scheme → Security
  | .bolt | .neo4j => .plain
  | .boltSecure | .neo4jSecure => .verified
  | .boltSelfSigned | .neo4jSelfSigned => .selfSigned

/-- The scheme with a name, in any mix of ASCII letter cases. -/
def ofName? (s : String) : Option Scheme :=
  all.find? (fun scheme => scheme.name.toList == s.toList.map Char.toLower)

/-- **NAMES ARE READ BACK.** -/
theorem ofName?_name (s : Scheme) : ofName? s.name = some s := by
  cases s <;> decide

/-- The quoted names of the schemes that satisfy a condition, as messages list them. -/
def listText (p : Scheme → Bool) : String :=
  ", ".intercalate ((all.filter p).map (fun s => "'" ++ s.name ++ "'"))

end Scheme
end GraphLink
