import GraphLink.Options.Layer
import GraphLink.Options.Security

/-! # Pool configuration — the layer that connections are opened with -/

namespace GraphLink

/-- Which certificates a secure connection accepts. -/
inductive Trust where
  /-- Those that the system trusts. -/
  | system
  /-- Every one. -/
  | all
  /-- Those in the given files. -/
  | only (paths : List String)
  deriving DecidableEq, Repr, Inhabited

/-- The trust that a list of certificate files expresses: an empty list is every certificate. -/
def Trust.ofPaths (paths : List String) : Trust :=
  if paths.isEmpty then .all else .only paths

/-- How a pool opens and keeps connections. -/
structure PoolConfig where
  connectionTimeout : Duration := .seconds 30
  updateRoutingTableTimeout : Duration := .seconds 90
  keepAlive : Bool := true
  maxConnectionLifetime : Duration := .seconds 3600
  maxConnectionPoolSize : Nat := 100
  encrypted : Bool := false
  trust : Trust := .system
  userAgent : String := "bolt-connect/0.1.0"
  deriving DecidableEq

namespace PoolConfig

/-- The pool layer. -/
def layer : Layer PoolConfig where
  defaults := {}
  fields := [
    .duration "connection_timeout" (fun v c => { c with connectionTimeout := v }),
    .duration "update_routing_table_timeout"
      (fun v c => { c with updateRoutingTableTimeout := v }),
    .bool "keep_alive" (fun v c => { c with keepAlive := v }),
    .duration "max_connection_lifetime" (fun v c => { c with maxConnectionLifetime := v }),
    .size "max_connection_pool_size" (fun v c => { c with maxConnectionPoolSize := v }),
    .bool Options.encryptedKey (fun v c => { c with encrypted := v }),
    .strings Options.certificatesKey (fun v c => { c with trust := .ofPaths v }),
    .string "user_agent" (fun v c => { c with userAgent := v })]

end PoolConfig
end GraphLink
