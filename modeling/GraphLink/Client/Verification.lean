import GraphLink.Client.Backend

/-! # Verification — does anyone answer?

    The routers of a cluster are all asked at once, and their results are looked at in the order of
    the routing table.  Three errors are **tolerated**: a router that is not available, one whose
    session expired, and one whose server refused count as not having answered, and are logged.
    The first error of any other kind ends the verification.  It succeeds if at least one router
    gave routing information, and then reports on every router. -/

namespace GraphLink

/-- What became of asking one router. -/
structure Probe where
  address : Address
  /-- None if the router gave no information. -/
  info : Option RoutingInfo
  deriving DecidableEq

namespace Verification

/-- Whether an error of one router leaves the others to decide. -/
def isTolerated : Error → Bool
  | .serviceUnavailable _ | .sessionExpired _ | .server .. => true
  | _ => false

/-- The line about a router that did not answer. -/
def silentEvent (router : Address) (e : Error) : Event :=
  ⟨.debug, "Router did not answer", [("router", router.text), ("error", e.message)]⟩

/-- The line at the beginning, with the number of routers. -/
def startEvent (routers : Nat) : Event :=
  ⟨.debug, "Verifying connectivity of routing servers",
    [("routers", String.ofList (Text.decimal routers))]⟩

/-- The line at the end if no router answered. -/
def noneEvent (routers : Nat) : Event :=
  ⟨.warn, "No routing server answered", [("routers", String.ofList (Text.decimal routers))]⟩

/-- The error if no router answered. -/
def noneError : Error :=
  .serviceUnavailable "Could not connect to any routing servers."

/-- Turns results into probes, in order, up to the first error that is not tolerated. -/
def settle : List (Address × Except Error (Option RoutingInfo)) → Report (List Probe)
  | [] => .pure []
  | (router, .ok info) :: rest =>
      (settle rest).bind (fun probes => .pure (⟨router, info⟩ :: probes))
  | (router, .error e) :: rest =>
      if isTolerated e then
        (Report.note (silentEvent router e)).bind (fun _ =>
          (settle rest).bind (fun probes => .pure (⟨router, none⟩ :: probes)))
      else .fail e

/-- Refuses probes of which none holds information. -/
def requireAnswer (probes : List Probe) : Report (List Probe) :=
  if probes.all (fun p => p.info.isNone) then
    (Report.note (noneEvent probes.length)).bind (fun _ => .fail noneError)
  else .pure probes

/-- Asks every router of the backend's table on behalf of a workspace. -/
def run (b : Backend) (pool : Nat) (workspace : WorkspaceConfig) : Report (List Probe) := do
  let routers := b.table.routers
  .note (startEvent routers.length)
  let results ← (⟨.ok (b.results workspace.connectionAcquisitionTimeout),
    routers.map (Backend.fetchCall pool workspace), []⟩ : Report _)
  let probes ← settle results
  requireAnswer probes

end Verification
end GraphLink
