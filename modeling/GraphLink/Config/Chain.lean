import GraphLink.Config.Pool
import GraphLink.Config.Session

/-! # Chains of layers

    Several layers take from one bag, one after the other: each key goes to the first layer that
    knows it.  Only after the last layer must the bag be empty. -/

namespace GraphLink

/-- The layers by name. -/
inductive LayerName where
  | pool
  | workspace
  | session
  deriving DecidableEq, Repr

/-- The configuration of one of the layers. -/
inductive LayerConfig where
  | pool (config : PoolConfig)
  | workspace (config : WorkspaceConfig)
  | session (config : SessionConfig)
  deriving DecidableEq

namespace LayerName

/-- Takes a layer out of a bag. -/
def take (name : LayerName) (o : Options) : Except Options.Fault LayerConfig × Options :=
  match name with
  | .pool => let (r, o) := PoolConfig.layer.take o; (r.map .pool, o)
  | .workspace => let (r, o) := WorkspaceConfig.layer.take o; (r.map .workspace, o)
  | .session => let (r, o) := SessionConfig.layer.take o; (r.map .session, o)

/-- The keys of a layer, in order. -/
def keys : LayerName → List String
  | .pool => PoolConfig.layer.keys
  | .workspace => WorkspaceConfig.layer.keys
  | .session => SessionConfig.layer.keys

/-- Turns a whole bag into the configuration of a layer; nothing may be left. -/
def consume (name : LayerName) (o : Options) : Except Options.Fault LayerConfig :=
  match name with
  | .pool => (PoolConfig.layer.consume o).map .pool
  | .workspace => (WorkspaceConfig.layer.consume o).map .workspace
  | .session => (SessionConfig.layer.consume o).map .session

/-- Takes layers out of a bag in order, up to the first that fails. -/
def takeChain : List LayerName → Options → Except Options.Fault (List LayerConfig) × Options
  | [], o => (.ok [], o)
  | name :: rest, o =>
      match name.take o with
      | (.ok config, o) =>
          let (configs, o) := takeChain rest o
          (configs.map (config :: ·), o)
      | (.error fault, o) => (.error fault, o)

/-- Turns a whole bag into the configurations of a chain; nothing may be left. -/
def consumeChain (names : List LayerName) (o : Options) :
    Except Options.Fault (List LayerConfig) :=
  match takeChain names o with
  | (.ok configs, rest) => (Options.ensureConsumed rest).map (fun _ => configs)
  | (.error fault, _) => .error fault

end LayerName

/-- The two layers that a driver is opened with. -/
structure DriverConfig where
  pool : PoolConfig
  workspace : WorkspaceConfig
  deriving DecidableEq

/-- Turns a whole bag into the pool layer and then the workspace layer; nothing may be left. -/
def DriverConfig.consume (o : Options) : Except Options.Fault DriverConfig :=
  match PoolConfig.layer.take o with
  | (.error fault, _) => .error fault
  | (.ok pool, rest) => (WorkspaceConfig.layer.consume rest).map (DriverConfig.mk pool)

end GraphLink
