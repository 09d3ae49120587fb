import GraphLink.Client.Session
import GraphLink.Client.Verification

/-! # Drivers — the owners of pools

    A driver owns a pool and gives out sessions on it.  Closing is final: the driver is closed
    before its pool is asked to close, so it stays closed when the pool fails to, and every later
    operation is refused before it looks at its options.  Sessions given out before go on. -/

namespace GraphLink

/-- What a driver is connected to. -/
inductive Endpoint where
  /-- One server. -/
  | direct (address : Address)
  /-- A cluster, by its initial routers, and what they are told about the client. -/
  | routing (initial : List Address) (context : RoutingContext)
  deriving DecidableEq

/-- A driver. -/
structure Driver where
  pool : Nat
  endpoint : Endpoint
  config : DriverConfig
  isOpen : Bool := true
  deriving DecidableEq

/-- What verifying connectivity found. -/
inductive Connectivity where
  | server (info : ServerInfo)
  | routers (probes : List Probe)
  deriving DecidableEq

namespace Driver

def kind (d : Driver) : DriverKind :=
  match d.endpoint with
  | .direct _ => .direct
  | .routing .. => .routing

/-- Whether connections are encrypted. -/
def encrypted (d : Driver) : Bool :=
  d.config.pool.encrypted

/-- What sessions inherit. -/
def workspace (d : Driver) : WorkspaceConfig :=
  d.config.workspace

def ensureOpen (d : Driver) : Except Error Unit :=
  if d.isOpen then .ok () else .error (.session "Driver is closed")

/-- A new session. -/
def session (d : Driver) (o : Options) : Except Error Session := do
  d.ensureOpen
  let config ← (SessionConfig.consumeOver d.workspace o).mapError Options.Fault.toError
  pure { pool := d.pool, config }

/-- Asks whether a server holds more than one database. -/
def supportsMultiDb (b : Backend) (d : Driver) : Report Bool := do
  let s ← .ofExcept (d.session SortedMap.empty)
  s.supportsMultiDb b

/-- The query that verifies one server. -/
def verificationQuery : String := "RETURN 1 AS x"

/-- Runs one query for one record over a session that fetches everything at once. -/
def verifyServer (b : Backend) (d : Driver) (o : Options) : Report ServerInfo := do
  .ofExcept d.ensureOpen
  let s ← .ofExcept (d.session (o.insert WorkspaceConfig.fetchSizeKey (.int (-1))))
  let result ← s.run b verificationQuery
  let _ ← .ofExcept result.single
  pure result.server

/-- Asks all routers.  The options are those of a workspace, and no others. -/
def verifyRouters (b : Backend) (d : Driver) (o : Options) : Report (List Probe) := do
  .ofExcept d.ensureOpen
  let workspace ← .ofExcept
    ((WorkspaceConfig.layer.consumeOver d.workspace o).mapError Options.Fault.toError)
  Verification.run b d.pool workspace

/-- Verifies that the driver can reach what it is connected to. -/
def verify (b : Backend) (d : Driver) (o : Options) : Report Connectivity :=
  match d.endpoint with
  | .direct _ => Connectivity.server <$> d.verifyServer b o
  | .routing .. => Connectivity.routers <$> d.verifyRouters b o

/-- Closes the driver and its pool; a closed one is left alone. -/
def close (b : Backend) (d : Driver) : Report Unit × Driver :=
  if d.isOpen then (b.close d.pool, { d with isOpen := false }) else (.pure (), d)

/-- Parts between brackets, with quoted keys. -/
def describeContext (context : RoutingContext) : String :=
  Value.bracketed "\x7b" "\x7d"
    (context.entries.map (fun e => Text.quoted e.1 ++ ": " ++ Text.quoted e.2))

/-- The parts of a driver by name, as diagnostics show it. -/
def describe (d : Driver) : String :=
  let isOpen := "open: " ++ (Value.bool d.isOpen).text ++ " \x7d)"
  match d.endpoint with
  | .direct address =>
      "Direct(DirectDriver \x7b address: " ++ address.describe ++ ", " ++ isOpen
  | .routing initial context =>
      "Routing(RoutingDriver \x7b initial_addresses: "
        ++ Value.bracketed "[" "]" (initial.map Address.describe)
        ++ ", routing_context: " ++ describeContext context ++ ", " ++ isOpen

end Driver
end GraphLink
