import GraphLink.Options.Layer

/-! # Workspace configuration — the layer that sessions inherit -/

namespace GraphLink

/-- What the sessions of a driver have in common unless they say otherwise. -/
structure WorkspaceConfig where
  connectionAcquisitionTimeout : Duration := .seconds 60
  maxTransactionRetryTime : Duration := .seconds 30
  initialRetryDelay : Duration := .seconds 1
  retryDelayMultiplier : Binary64 := ⟨0x4000000000000000⟩
  retryDelayJitterFactor : Binary64 := ⟨0x3FC999999999999A⟩
  /-- None is the server's default database. -/
  database : Option String := none
  /-- How many records are fetched at a time; all of them if negative. -/
  fetchSize : Int64 := 1000
  impersonatedUser : Option String := none
  deriving DecidableEq

namespace WorkspaceConfig

/-- The option that says how many records are fetched at a time. -/
def fetchSizeKey : String := "fetch_size"

/-- The workspace layer. -/
def layer : Layer WorkspaceConfig where
  defaults := {}
  fields := [
    .duration "connection_acquisition_timeout"
      (fun v c => { c with connectionAcquisitionTimeout := v }),
    .duration "max_transaction_retry_time" (fun v c => { c with maxTransactionRetryTime := v }),
    .duration "initial_retry_delay" (fun v c => { c with initialRetryDelay := v }),
    .float "retry_delay_multiplier" (fun v c => { c with retryDelayMultiplier := v }),
    .float "retry_delay_jitter_factor" (fun v c => { c with retryDelayJitterFactor := v }),
    .optionalString "database" (fun v c => { c with database := v }),
    .int fetchSizeKey (fun v c => { c with fetchSize := v }),
    .optionalString "impersonated_user" (fun v c => { c with impersonatedUser := v })]

/-- Equality with the factors of delays compared as numbers, so that a configuration with a NaN
    differs from itself. -/
def equal (a b : WorkspaceConfig) : Bool :=
  a.retryDelayMultiplier.equal b.retryDelayMultiplier
    && a.retryDelayJitterFactor.equal b.retryDelayJitterFactor
    && { a with
          retryDelayMultiplier := b.retryDelayMultiplier
          retryDelayJitterFactor := b.retryDelayJitterFactor } == b

end WorkspaceConfig
end GraphLink
