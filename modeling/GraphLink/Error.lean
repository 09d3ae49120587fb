/-! # Errors — what a caller is told

    Every operation that can fail ends in an `Error`: a category, and a detail in words.  Six
    categories are **client errors** (`isClientError`): the caller's own input is at fault and
    trying again cannot help.

    A pool reports trouble below the level of queries as a `TransportFault`.  These never reach a
    caller: `TransportFault.toError` keeps a refused configuration as what it is and turns every
    other one into "service unavailable". -/

namespace GraphLink

/-- Why an operation failed. -/
inductive Error where
  /-- A target or URI that is not an address. -/
  | malformedAddress (detail : String)
  /-- A URI with a scheme that is not one of ours. -/
  | unsupportedScheme (detail : String)
  /-- Settings that contradict each other, or a value that its option does not admit. -/
  | configuration (detail : String)
  /-- Arguments that do not fit together. -/
  | invalidArgument (detail : String)
  /-- Options that no layer knows, in ascending order. -/
  | unknownOptions (keys : List String)
  /-- No server could be reached. -/
  | serviceUnavailable (detail : String)
  /-- The session can no longer be used. -/
  | sessionExpired (detail : String)
  /-- The server refused, with its own code. -/
  | server (code detail : String)
  /-- A connection broke. -/
  | connection (detail : String)
  /-- A session or driver is in the wrong state. -/
  | session (detail : String)
  /-- Something took too long. -/
  | timeout (detail : String)
  /-- A value is not of the type that was asked for. -/
  | typeConversion (detail : String)
  /-- A result has not exactly one record. -/
  | notSingle (detail : String)
  deriving DecidableEq, Repr, Inhabited

namespace Error

/-- The error for keys that no layer knows, in whatever order they are given. -/
def ofUnknownKeys (keys : List String) : Error :=
  .unknownOptions (keys.mergeSort (fun a b => decide (a ≤ b)))

/-- The text of an error: its category, then its detail. -/
def message : Error → String
  | .malformedAddress d => "Malformed address: " ++ d
  | .unsupportedScheme d => "Unsupported URI scheme: " ++ d
  | .configuration d => "Configuration error: " ++ d
  | .invalidArgument d => "Invalid argument: " ++ d
  | .unknownOptions keys => "Unknown configuration option(s): " ++ ", ".intercalate keys
  | .serviceUnavailable d => "Service unavailable: " ++ d
  | .sessionExpired d => "Session expired: " ++ d
  | .server code d => "Server error: " ++ code ++ " - " ++ d
  | .connection d => "Connection error: " ++ d
  | .session d => "Session error: " ++ d
  | .timeout d => "Timeout: " ++ d
  | .typeConversion d => "Type conversion error: " ++ d
  | .notSingle d => "Result is not single: " ++ d

/-- Whether the caller's input is at fault. -/
def isClientError : Error → Bool
  | .malformedAddress _ | .unsupportedScheme _ | .configuration _ | .invalidArgument _
  | .unknownOptions _ | .typeConversion _ => true
  | _ => false

end Error

/-- Trouble below the level of queries, as a pool reports it. -/
inductive TransportFault where
  /-- The peers agree on no protocol version. -/
  | handshake (detail : String)
  /-- The secure channel could not be set up. -/
  | security (detail : String)
  /-- Reading or writing failed. -/
  | io (detail : String)
  /-- The other side hung up. -/
  | connectionClosed
  /-- The other side took too long. -/
  | timeout
  /-- The pool refuses its configuration. -/
  | configuration (detail : String)
  deriving DecidableEq, Repr, Inhabited

namespace TransportFault

def message : TransportFault → String
  | .handshake d => "Handshake error: " ++ d
  | .security d => "Security error: " ++ d
  | .io d => "I/O error: " ++ d
  | .connectionClosed => "Connection closed"
  | .timeout => "Operation timed out"
  | .configuration d => "Configuration error: " ++ d

/-- What a caller is told of it. -/
def toError : TransportFault → Error
  | .configuration d => .configuration d
  | fault => .serviceUnavailable fault.message

end TransportFault
end GraphLink
