import GraphLink.Connection.Form
import GraphLink.Error
import GraphLink.SortedMap

/-! # Routing contexts

    A routing context is what a client tells the routers of a cluster about itself: a map from
    texts to texts.  In a URI it is the query.  Reading one goes through the pairs from left to
    right and stops at the first that is bad: with an empty key or value, with the reserved key,
    or with a key that an earlier pair had. -/

namespace GraphLink

/-- What a client tells routers about itself. -/
abbrev RoutingContext := SortedMap String

namespace RoutingContext

/-- The key that no context may have. -/
def reservedKey : String := "address"

/-- Why a context is refused. -/
inductive Fault where
  /-- A pair of a query has an empty key or value. -/
  | emptyPart (key value query : String)
  /-- The reserved key is used. -/
  | reserved
  /-- Two pairs of a query have the same key. -/
  | duplicate (key query : String)
  deriving DecidableEq, Repr

namespace Fault

def message : Fault → String
  | .emptyPart key value query =>
      "Invalid parameters: '" ++ key ++ "=" ++ value ++ "' in query '" ++ query ++ "'."
  | .reserved => "The key '" ++ reservedKey ++ "' is reserved for routing context."
  | .duplicate key query =>
      "Duplicated query parameters with key '" ++ key ++ "' in query '" ++ query ++ "'."

def toError (f : Fault) : Error :=
  .configuration f.message

end Fault

/-- Adds a pair of a query to a context. -/
def addPair (query : String) (context : RoutingContext) (pair : String × String) :
    Except Fault RoutingContext :=
  if pair.1.isEmpty || pair.2.isEmpty then .error (.emptyPart pair.1 pair.2 query)
  else if pair.1 = reservedKey then .error .reserved
  else if context.contains pair.1 then .error (.duplicate pair.1 query)
  else .ok (context.insert pair.1 pair.2)

/-- The context of a query. -/
def parse (query : String) : Except Fault RoutingContext :=
  (Form.pairs query.toList).foldlM (addPair query) SortedMap.empty

/-- Refuses a context with the reserved key, wherever it comes from. -/
def checkReserved (context : RoutingContext) : Except Fault Unit :=
  if context.contains reservedKey then .error .reserved else .ok ()

end RoutingContext
end GraphLink
