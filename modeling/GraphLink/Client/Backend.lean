import GraphLink.Client.Report
import GraphLink.Record
import GraphLink.Routing.Table

/-! # Backends — the other side of every pool

    A backend is all that a client can learn from pools and servers at a moment: whether pools
    open, connections come, queries succeed, and how each router answers and how fast.  Every
    operation on a pool is a function of the backend to a report.

    Time is counted, not measured: a router that takes longer than the time allowed has not
    answered. -/

namespace GraphLink

/-- What a router does when it is asked. -/
inductive RouterReply where
  | info (info : RoutingInfo)
  /-- It answers that it knows nothing. -/
  | empty
  | failure (error : Error)
  /-- It never answers. -/
  | silence
  deriving DecidableEq

/-- The result in a reply; nothing if there is none. -/
def RouterReply.result? : RouterReply → Option (Except Error (Option RoutingInfo))
  | .info i => some (.ok (some i))
  | .empty => some (.ok none)
  | .failure error => some (.error error)
  | .silence => none

/-- A router: where it is, how long it takes and what it then does. -/
structure Router where
  address : Address
  delayMillis : Nat
  reply : RouterReply
  deriving DecidableEq

namespace Router

/-- The router's own result, if it comes within the time allowed. -/
def timely? (r : Router) (timeout : Duration) : Option (Except Error (Option RoutingInfo)) :=
  if timeout.totalNanos < r.delayMillis * 1000000 then none else r.reply.result?

/-- The error of a router that has taken too long. -/
def lateError (r : Router) (timeout : Duration) : Error :=
  .serviceUnavailable ("Timed out after " ++ timeout.text ++ " fetching routing info from "
    ++ r.address.text)

/-- What asking the router comes to. -/
def answer (r : Router) (timeout : Duration) : Except Error (Option RoutingInfo) :=
  (r.timely? timeout).getD (.error (r.lateError timeout))

/-- Appends a router unless there is one with its address. -/
def addDistinct (routers : List Router) (r : Router) : List Router :=
  if r.address ∈ routers.map Router.address then routers else routers ++ [r]

/-- The routers of a sequence with an address of their own, in the order of first mention. -/
def distinct (routers : List Router) : List Router :=
  routers.foldl addDistinct []

/-- Routers are collected as their addresses are, one by one. -/
theorem map_address_foldl_addDistinct (routers acc : List Router) :
    (routers.foldl addDistinct acc).map address
      = (routers.map address).foldl RoutingTable.addRouter (acc.map address) := by
  induction routers generalizing acc with
  | nil => rfl
  | cons r rest ih =>
      have hstep : (addDistinct acc r).map address
          = RoutingTable.addRouter (acc.map address) r.address := by
        rw [addDistinct, RoutingTable.addRouter]
        split
        · rfl
        · exact List.map_append
      rw [List.foldl_cons, ih, hstep]
      rfl

/-- Distinct routers make up the table of their addresses. -/
theorem map_address_distinct (routers : List Router) :
    (distinct routers).map address = (RoutingTable.ofList (routers.map address)).routers :=
  map_address_foldl_addDistinct routers []

end Router

/-- The other side of every pool. -/
structure Backend where
  /-- What happens when a pool is opened. -/
  openFault : Option TransportFault := none
  /-- What happens when a connection is asked for. -/
  acquireError : Option Error := none
  /-- What happens when a query is sent. -/
  queryError : Option Error := none
  /-- What happens when a pool is closed. -/
  closeError : Option Error := none
  /-- The server that queries reach. -/
  server : ServerInfo := ⟨⟨"db", 7687⟩, "Neo4j/5.13.0", "5.4"⟩
  /-- The keys of every result. -/
  keys : List String := ["x"]
  /-- The values of every result. -/
  rows : List (List Value) := [[.int 1]]
  /-- Whether a server holds more than one database. -/
  multiDb : Bool := false
  /-- The routers that a pool begins with; if not given, those that it was opened with. -/
  initialRouters : Option (List Address) := none
  /-- The routers in the routing table that pools know, in its order. -/
  routers : List Router := []
  deriving DecidableEq

namespace Backend

/-- Success, or the error that is given. -/
def outcome {α : Type} (error? : Option Error) (a : α) : Except Error α :=
  (error?.map Except.error).getD (.ok a)

def acquire (b : Backend) (pool : Nat) (mode : AccessMode) (config : SessionConfig) :
    Report Unit :=
  .call (.acquire pool mode config.database config.workspace.connectionAcquisitionTimeout)
    (outcome b.acquireError ())

/-- The result of every query under a configuration. -/
def result (b : Backend) (config : SessionConfig) : QueryResult where
  keys := b.keys
  records := b.rows.map (Record.mk b.keys)
  server := b.server
  database := config.database

def run (b : Backend) (pool : Nat) (query : String) (config : SessionConfig) :
    Report QueryResult :=
  .call (.run pool query config) (outcome b.queryError (b.result config))

def close (b : Backend) (pool : Nat) : Report Unit :=
  .call (.close pool) (outcome b.closeError ())

/-- Acquires a connection, uses it, and releases it whatever came of the use. -/
def withConnection {α : Type} (b : Backend) (pool : Nat) (mode : AccessMode)
    (config : SessionConfig) (use : Report α) : Report α :=
  (b.acquire pool mode config).bind (fun _ => use.thenCall (.release pool))

/-- The routing table that pools know. -/
def table (b : Backend) : RoutingTable where
  routers := b.routers.map Router.address

/-- What asking every router comes to, in the order of the table. -/
def results (b : Backend) (timeout : Duration) :
    List (Address × Except Error (Option RoutingInfo)) :=
  b.routers.map (fun r => (r.address, r.answer timeout))

/-- The call that asks a router for routing information on behalf of a workspace. -/
def fetchCall (pool : Nat) (workspace : WorkspaceConfig) (router : Address) : Call :=
  .fetch pool router workspace.database workspace.impersonatedUser 0
    workspace.connectionAcquisitionTimeout

/-- One thing about a backend, set anew. -/
inductive Setting where
  | openFault (fault : Option TransportFault)
  | acquireError (error : Option Error)
  | queryError (error : Option Error)
  | closeError (error : Option Error)
  | serverAddress (address : Address)
  | agent (agent : String)
  | protocol (protocol : String)
  | keys (keys : List String)
  | rows (rows : List (List Value))
  | multiDb (multiDb : Bool)
  | initialRouters (addresses : Option (List Address))
  /-- The table is made of those that are distinct. -/
  | routers (routers : List Router)
  deriving DecidableEq

def set (b : Backend) : Setting → Backend
  | .openFault fault => { b with openFault := fault }
  | .acquireError error => { b with acquireError := error }
  | .queryError error => { b with queryError := error }
  | .closeError error => { b with closeError := error }
  | .serverAddress address => { b with server := { b.server with address } }
  | .agent agent => { b with server := { b.server with agent } }
  | .protocol protocol => { b with server := { b.server with protocol } }
  | .keys keys => { b with keys }
  | .rows rows => { b with rows }
  | .multiDb multiDb => { b with multiDb }
  | .initialRouters addresses => { b with initialRouters := addresses }
  | .routers routers => { b with routers := Router.distinct routers }

def setAll (b : Backend) (settings : List Setting) : Backend :=
  settings.foldl set b

end Backend
end GraphLink
