import GraphLink.Client.Backend

/-! # Sessions — queries under one configuration

    A session keeps the number of the pool that its driver opened, and its own configuration.
    While it is open, each query acquires a connection, runs and releases it again, also when the
    query fails. -/

namespace GraphLink

/-- A session of a driver. -/
structure Session where
  pool : Nat
  config : SessionConfig
  isOpen : Bool := true
  deriving DecidableEq

namespace Session

def ensureOpen (s : Session) : Except Error Unit :=
  if s.isOpen then .ok () else .error (.session "Session is closed")

/-- Runs a query and takes in its whole result. -/
def run (b : Backend) (s : Session) (query : String) : Report QueryResult := do
  .ofExcept s.ensureOpen
  b.withConnection s.pool s.config.defaultAccessMode s.config (b.run s.pool query s.config)

/-- Asks, over a connection for reading, whether a server holds more than one database. -/
def supportsMultiDb (b : Backend) (s : Session) : Report Bool := do
  .ofExcept s.ensureOpen
  b.withConnection s.pool .read s.config (.pure b.multiDb)

/-- A session that runs nothing any more. -/
def close (s : Session) : Session :=
  { s with isOpen := false }

/-- The parts of a session by name, as diagnostics show it. -/
def describe (s : Session) : String :=
  let database :=
    match s.config.database with
    | some name => "Some(" ++ Text.quoted name ++ ")"
    | none => "None"
  "Session \x7b database: " ++ database ++ ", access_mode: " ++ s.config.defaultAccessMode.describe
    ++ ", open: " ++ (Value.bool s.isOpen).text ++ " \x7d"

end Session
end GraphLink
