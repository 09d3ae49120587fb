import GraphLink.Connection.RoutingContext
import GraphLink.Connection.Scheme
import GraphLink.Event
import GraphLink.Uri.Basic

/-! # Connection URIs — from a URI to a scheme, a place and a routing context

    A connection URI has one of our schemes, a network location, and perhaps a query; it carries
    no credentials, no path but `/`, and no fragment.  `classify` reads one, and reports of several
    faults the first in this order: not a URI, another scheme, credentials, path or fragment.

    A URI that is shown to anyone, in an error or in the log, is shown with its user information
    masked (`maskUserinfo`).  The mask works on the text alone, so it also covers texts that are
    no URIs. -/

namespace GraphLink

/-- A classified connection URI. -/
structure ConnectionUri where
  scheme : Scheme
  /-- Host and, behind a colon, port; empty if there is no host. -/
  netloc : String
  /-- Percent-encoded, without the question mark. -/
  query : Option String
  deriving DecidableEq

namespace ConnectionUri

/-- The parts before and after the first `://`. -/
def cutAuthorityMark : List Char → Option (List Char × List Char)
  | ':' :: '/' :: '/' :: rest => some ([], rest)
  | c :: rest => (cutAuthorityMark rest).map (fun p => (c :: p.1, p.2))
  | [] => none

/-- Whether a character ends the part of a text in which user information is masked. -/
def endsMask (c : Char) : Bool :=
  c == '/' || c == '?' || c == '#'

/-- A text with the user information behind its first `://` replaced by three stars. -/
def maskUserinfo (cs : List Char) : List Char :=
  match cutAuthorityMark cs with
  | none => cs
  | some (front, rest) =>
      match Text.cutLast '@' (rest.takeWhile (fun c => !endsMask c)) with
      | none => cs
      | some (_, hostport) =>
          front ++ "://***@".toList ++ hostport ++ rest.dropWhile (fun c => !endsMask c)

/-- A URI as it is shown. -/
def shown (uri : String) : String :=
  String.ofList (maskUserinfo uri.toList)

/-- Why a text is not a connection URI.  Each fault carries the URI as it is shown. -/
inductive Fault where
  /-- It is not a URI. -/
  | unreadable (fault : Uri.Fault) (shown : String)
  /-- It has another scheme, or none. -/
  | otherScheme (scheme shown : String)
  /-- It carries a user name or a password. -/
  | credentials (shown : String)
  /-- It has a path or a fragment. -/
  | pathOrFragment (shown : String)
  deriving DecidableEq, Repr

namespace Fault

def message : Fault → String
  | .unreadable fault uri => "Invalid URI \"" ++ uri ++ "\": " ++ fault.message
  | .otherScheme scheme uri =>
      "URI scheme \"" ++ scheme ++ "\" is not supported. Supported URI schemes are ["
        ++ Scheme.listText (fun _ => true) ++ "]. Examples: bolt://host[:port] or "
        ++ "neo4j://host[:port][?routing_context]. Given URI \"" ++ uri ++ "\"."
  | .credentials uri =>
      "URI must not carry credentials, pass them as an auth token instead. Given URI \""
        ++ uri ++ "\"."
  | .pathOrFragment uri => "URI must not have a path or fragment. Given URI \"" ++ uri ++ "\"."

def toError (f : Fault) : Error :=
  match f with
  | .otherScheme .. => .unsupportedScheme f.message
  | _ => .malformedAddress f.message

end Fault

/-- Whether a URI is nothing but a place: its path is empty or `/`, and it has no fragment. -/
def isPlace (u : Uri) : Bool :=
  (u.path == [] || u.path == ['/']) && u.fragment.isNone

/-- Reads a connection URI. -/
def classify (uri : String) : Except Fault ConnectionUri :=
  match Uri.parse uri with
  | .error .noScheme => .error (.otherScheme "" (shown uri))
  | .error fault => .error (.unreadable fault (shown uri))
  | .ok u =>
      match Scheme.ofName? u.scheme with
      | none => .error (.otherScheme u.scheme (shown uri))
      | some scheme =>
          if !u.userinfo.isEmpty then .error (.credentials (shown uri))
          else if !isPlace u then .error (.pathOrFragment (shown uri))
          else .ok ⟨scheme, String.ofList u.netloc, u.query.map String.ofList⟩

def kind (u : ConnectionUri) : DriverKind :=
  u.scheme.kind

def security (u : ConnectionUri) : Security :=
  u.scheme.security

/-- The routing context in the query; none is an empty one. -/
def routingContext (u : ConnectionUri) : Except RoutingContext.Fault RoutingContext :=
  match u.query with
  | some query => RoutingContext.parse query
  | none => .ok SortedMap.empty

/-- A connection URI in writing. -/
def render (u : ConnectionUri) : String :=
  u.scheme.name ++ "://" ++ u.netloc ++ (u.query.map ("?" ++ ·)).getD ""

/-- The line that is logged when a URI has been classified. -/
def classifiedEvent (uri : String) (u : ConnectionUri) : Event :=
  ⟨.debug, "Classified connection URI",
    [("uri", shown uri), ("kind", u.kind.name), ("security", u.security.name)]⟩

end ConnectionUri
end GraphLink
