import GraphLink.Address.Target
import GraphLink.Client.Driver
import GraphLink.Connection.Uri

/-! # Opening drivers

    A driver is opened for a URI, for a target, or for a list of targets with a routing context.
    Everything is checked before the connector is called, in a fixed order: what the URI says, what
    its scheme settles, its query; then the addresses, the reserved key of the context, and the
    options.  The connector is called at most once, and what it refuses is told to the caller as
    `TransportFault.toError` says. -/

namespace GraphLink.Opening

/-- What diagnostics show of a factory of drivers: nothing but that it is one. -/
def describe : String := "GraphDatabase \x7b .. \x7d"

/-- A fault as a failed report. -/
def check {ε α : Type} (toError : ε → Error) (r : Except ε α) : Report α :=
  .ofExcept (r.mapError toError)

/-- The line about a pool that did not open. -/
def failureEvent (target : String) (fault : TransportFault) : Event :=
  ⟨.warn, "Failed to open connection pool",
    [("target_address", target), ("error", fault.message)]⟩

/-- The line about a driver that did. -/
def openedEvent (message place target : String) (config : DriverConfig) : Event :=
  ⟨.info, message, [(place, target), ("encrypted", (Value.bool config.pool.encrypted).text)]⟩

/-- Calls the connector: on success nothing more, on failure a line in the log and an error. -/
def callConnector (b : Backend) (c : Bool → Call) (target : String) : Report Unit :=
  match b.openFault with
  | none => .call (c false) (.ok ())
  | some fault => ⟨.error fault.toError, [c true], [failureEvent target fault]⟩

/-- Opens a driver for one server; `pool` is the number that its pool will have. -/
def direct (b : Backend) (pool : Nat) (target : String) (auth : AuthToken) (o : Options) :
    Report Driver := do
  let address ← check Address.Fault.toError (Address.parseTarget target)
  let config ← check Options.Fault.toError (DriverConfig.consume o)
  callConnector b (.openDirect address auth config) address.text
  .note (openedEvent "Opened direct driver" "address" address.text config)
  pure { pool, endpoint := .direct address, config }

/-- Opens a driver for a cluster. -/
def routing (b : Backend) (pool : Nat) (targets : List String) (auth : AuthToken)
    (context : RoutingContext) (o : Options) : Report Driver := do
  let addresses ← check Address.Fault.toError (Address.parseTargets targets)
  check RoutingContext.Fault.toError context.checkReserved
  let config ← check Options.Fault.toError (DriverConfig.consume o)
  callConnector b (.openRouting addresses auth context config) (Address.listText addresses)
  let initial := b.initialRouters.getD addresses
  .note (openedEvent "Opened routing driver" "routers" (Address.listText initial) config)
  pure { pool, endpoint := .routing initial context, config }

/-- Reads a URI and logs that it has been read. -/
def classify (uri : String) : Report ConnectionUri := do
  let u ← check ConnectionUri.Fault.toError (ConnectionUri.classify uri)
  .note (u.classifiedEvent uri)
  pure u

/-- The error for a routing context under a scheme that has no use for one. -/
def uselessContext (u : ConnectionUri) (uri : String) : Error :=
  .invalidArgument ("Routing parameters are not supported with scheme \"" ++ u.scheme.name
    ++ "\". Given URI \"" ++ uri ++ "\".")

/-- Opens a driver for a URI. -/
def uri (b : Backend) (pool : Nat) (uri : String) (auth : AuthToken) (o : Options) :
    Report Driver := do
  let u ← classify uri
  let o ← check Options.Fault.toError (o.applySecurity u.security)
  let context ← check RoutingContext.Fault.toError u.routingContext
  match u.kind with
  | .direct =>
      if context.isEmpty then direct b pool u.netloc auth o
      else .fail (uselessContext u uri)
  | .routing => routing b pool [u.netloc] auth context o

end GraphLink.Opening
